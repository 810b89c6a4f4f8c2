/-!
# Names in statements

`Ident.quote` writes a name in double quotes, each dot-separated part on its own (`a.b` is
`"a"."b"`), doubling a double quote inside and taking a part that starts with one as quoted
already; the rules are a small state machine over the characters, odd cases included (the empty
name is a lone `"`). `TableRef.ofName` reads the table a caller names: a name holding a blank or a
backquote is an expression written as it is, standing for its alias (`x AS y`, or the second word
of `x y`) in column references; any other name is quoted, `schema.table` standing for `table`;
no name means the table named after the row type.
-/

namespace SwapArchive

namespace Ident

/-- The state of the quoting machine: what is written, whether a quoted part is open, whether
that part opened with the name's own quote, the run of double quotes not yet written, and the
number of characters since the last dot. -/
structure QuoteState where
  out : String := ""
  open_ : Bool := false
  selfQuoted : Bool := false
  quotes : Int := 0
  shift : Int := 0

/-- `n` doubled double quotes. -/
def doubled (n : Nat) : String := String.join (List.replicate n "\"\"")

/-- Quotes one more character. -/
def quoteStep (st : QuoteState) (c : Char) : QuoteState :=
  if c = '"' then
    if st.quotes + 1 = 2 then { st with out := st.out ++ "\"\"", quotes := 0, shift := st.shift + 1 }
    else { st with quotes := st.quotes + 1, shift := st.shift + 1 }
  else if c = '.' then
    let st := if st.quotes > 0 ∨ ¬st.selfQuoted then
      { st with shift := 0, open_ := false, quotes := 0, out := st.out.push '"' } else st
    { st with out := st.out.push '.' }
  else
    let st := if st.shift - st.quotes ≤ 0 ∧ ¬st.open_ then
        let sq := decide (st.quotes > 0)
        { st with out := st.out.push '"', open_ := true, selfQuoted := sq,
                  quotes := if sq then st.quotes - 1 else st.quotes }
      else st
    { st with out := (st.out ++ doubled st.quotes.toNat).push c, quotes := 0, shift := st.shift + 1 }

/-- A name in double quotes. -/
def quote (s : String) : String :=
  let st := s.toList.foldl quoteStep {}
  let out := if st.quotes > 0 ∧ ¬st.selfQuoted then st.out ++ "\"\"" else st.out
  out.push '"'

end Ident

namespace TableAlias

/-- A letter, digit or underscore. -/
def isWord (c : Char) : Bool := c.isAlphanum || c = '_'

/-- A blank: space, tab, newline, form feed or carriage return. -/
def isBlank (c : Char) : Bool := c = ' ' || c = '\t' || c = '\n' || c = '\x0c' || c = '\r'

/-- ` AS y` followed by blanks and then the end or a comma, any case: `y`. -/
def asClause : List Char → Option String
  | ' ' :: a :: s :: ' ' :: rest =>
    if (a = 'a' ∨ a = 'A') ∧ (s = 's' ∨ s = 'S' ∨ s = 'ſ') then
      let w := rest.takeWhile isWord
      let after := (rest.dropWhile isWord).dropWhile isBlank
      if w ≠ [] ∧ (after = [] ∨ after.head? = some ',') then some (String.ofList w) else none
    else none
  | _ => none

/-- The alias of the shortest non-empty stretch without newline, from the start, that an `AS`
clause follows. -/
def shortestAs : List Char → Option String
  | [] => none
  | c :: rest => if c = '\n' then none else (asClause rest).orElse fun _ => shortestAs rest

/-- `x y`, two words with blanks between them and nothing else: `y`. -/
def twoWords (cs : List Char) : Option String :=
  let r1 := cs.dropWhile isWord
  let r2 := r1.dropWhile isBlank
  let w2 := r2.takeWhile isWord
  if (cs.takeWhile isWord) ≠ [] ∧ (r1.takeWhile isBlank) ≠ [] ∧ w2 ≠ [] ∧ r2.dropWhile isWord = [] then
    some (String.ofList w2)
  else none

/-- The alias found from the first place where either form matches. -/
def aliasFrom : Bool → List Char → Option String
  | _, [] => none
  | atStart, c :: rest =>
    match shortestAs (c :: rest) with
    | some w => some w
    | none => match (if atStart then twoWords (c :: rest) else none) with
      | some w => some w
      | none => aliasFrom false rest

/-- The alias of a table expression, if it has one. -/
def ofExpr (s : String) : Option String := aliasFrom true s.toList

end TableAlias

/-- Where a statement reads or writes: the text naming it after `FROM` or `INTO`, and the name
that stands for it in column references. -/
structure TableRef where
  expr : String
  name : String
  deriving DecidableEq, Repr

namespace TableRef

/-- The table a caller names; `typeTable` is the table named after the row type, used when the
caller names none and for references to an expression without alias. -/
def ofName (typeTable name : String) : TableRef :=
  if name.contains ' ' ∨ name.contains '`' then ⟨name, (TableAlias.ofExpr name).getD typeTable⟩
  else match name.splitOn "." with
    | [_, t] => ⟨Ident.quote name, t⟩
    | _ => if name = "" then ⟨Ident.quote typeTable, typeTable⟩ else ⟨Ident.quote name, name⟩

/-- A column of the table, as a reference: `"table"."column"`. -/
def column (t : TableRef) (c : String) : String := Ident.quote t.name ++ "." ++ Ident.quote c

end TableRef

end SwapArchive
