/-!
# Time zone data

The IANA time zone database, release 2025b, installed with the full history of every zone of
`zone.tab` (such a zone keeps its own `backzone` record even where the main data links it to a
neighbour); every other name is the zone the main data gives it. An entry is three `|`-separated
parts: the local time types, `offset,isDst` separated by `;`; the transitions, `delta.type`
separated by `,`, each time the difference in Unix seconds to the previous one and each type an
index, both in base 36; and the POSIX TZ rule after the last transition. `zoneAliases` maps the
names whose rules equal another zone's to that zone.
-/

namespace SwapArchive

namespace ZoneData

/-- Every zone of the database with its encoded rules, sorted by name. -/
def zoneEntries : Array (String × String) := #[
  ("Africa/Abidjan", "-968,0;0,0|-u9rgl4.1|GMT0"),
  ("Africa/Accra", "-52,0;1200,1;0,0;1800,0;1800,1;0,0|-s9p1ak.2,24aamk.1,1yhyo.2,cjvlc.1,69weo.2,ci0xc.1,69weo.2,ci0xc.1,69weo.2,ci0xc.1,69weo.2,cjvlc.1,69weo.2,ci0xc.1,69weo.2,ci0xc.1,69weo.2,ci0xc.1,69weo.2,cjvlc.1,69weo.2,ci0xc.1,69weo.2,ci0xc.1,69weo.2,ci0xc.1,69weo.2,cjvlc.1,69weo.2,ci0xc.1,69weo.2,ci0xc.1,69weo.2,ci0xc.1,69weo.2,cjvlc.1,69weo.2,ci0xc.1,69weo.2,ci0xc.1,69weo.2,ci0xc.1,69weo.2,683lc.1,cloeo.2,668xc.1,cloeo.2,1y8pc.3,21gem0.2,2fehm0.4,69vy0.2,ci1e0.4,69vy0.2,cjw20.4,69vy0.2,ci1e0.4,69vy0.2,ci1e0.4,69vy0.2,ci1e0.4,69vy0.2|GMT0"),
  ("Africa/Addis_Ababa", "9288,0;9320,0;10800,0|-1g6t8i0.1,ymedb4.2|EAT-3"),
  ("Africa/Algiers", "732,0;561,0;3600,1;0,0;0,0;7200,1;3600,0;3600,1|-154gb8c.1,afgo4r.4,2qx1nl.2,5luo0.3,8y800.2,a4tc0.3,7vc00.2,auqo0.3,7idc0.2,b7pc0.3,6sg00.2,cyo00.3,7ayo0.2,53c00.3,9idxc0.2,3i040.4,51mw0.6,253uk0.5,9o2k0.6,92040.5,8l3s0.6,jutc0.4,4uy840.6,3rdzw0.4,46xc00.2,7x6o0.3,2xco40.7,8n180.6,7x9g0.5,9d440.6,kiqg0.4,9d440.7,9q2s0.4,9cyk0.6|CET-1"),
  ("Africa/Asmara", "9332,0;9332,0;9320,0;10800,0|-1g6t8j8.1,afrs00.2,o6mlcc.3|EAT-3"),
  ("Africa/Bamako", "-1920,0;0,0;-3600,0;0,0|-u9rfuo.1,bk956o.2,dqe840.1|GMT0"),
  ("Africa/Bangui", "4460,0;3600,0|-u9rkrw.1|WAT-1"),
  ("Africa/Banjul", "-3996,0;-3996,0;-3600,0;0,0|-u9re90.1,b38800.2,4m1rp0.3|GMT0"),
  ("Africa/Bissau", "-3740,0;-3600,0;0,0|-u9rek0.1,wvoyo0.2|GMT0"),
  ("Africa/Blantyre", "8400,0;8470,0;8460,0;7200,0|-ui1t5c.1,1j56m2.2,5qqlca.3|CAT-2"),
  ("Africa/Brazzaville", "3668,0;3600,0|-u9rk5w.1|WAT-1"),
  ("Africa/Bujumbura", "7048,0;7200,0|-15r1ers.1|CAT-2"),
  ("Africa/Cairo", "7509,0;10800,1;7200,0;10800,1|-1054wgl.2,krj48l.1,40d80.2,a31g0.1,7x3w0.2,a4w40.1,aqyk0.2,80ys0.1,b07w0.2,7tk40.1,b07w0.2,8jhg0.1,a8fw0.2,60go40.1,7el80.2,awo40.1,7v980.2,awqw0.1,7tk40.2,b07w0.1,7tk40.2,ayd80.1,7tk40.2,ayd80.1,7tk40.2,ayd80.1,7tk40.2,b07w0.1,7tk40.2,ayd80.1,7tk40.2,ayd80.1,7ves0.2,awik0.1,7ves0.2,ayd80.1,7ves0.2,awik0.1,7ves0.2,awik0.1,7ves0.2,awik0.1,7ves0.2,ayd80.1,7ves0.2,awik0.1,7ves0.2,awik0.1,7ves0.2,awik0.1,7ves0.2,ayd80.1,7ves0.2,awik0.1,7ves0.2,awik0.1,7ves0.2,awik0.1,7ves0.2,ayd80.1,7ves0.2,awik0.1,7ves0.2,f9x80.1,3i040.2,eluk0.1,462s0.2,ayd80.1,7ves0.2,awik0.1,7ves0.2,awik0.1,7ves0.2,awik0.1,7ves0.2,ayd80.1,7ves0.2,b5rw0.1,7m5g0.2,awik0.1,7ves0.2,awik0.1,7ves0.2,ayd80.1,7ves0.2,awik0.1,7ves0.2,awik0.1,7ves0.2,aqvs0.3,7x3w0.2,asys0.3,7x3w0.2,asys0.3,7x3w0.2,asys0.3,7x3w0.2,b5xg0.3,7x3w0.2,asys0.3,7x3w0.2,asys0.3,7x3w0.2,asys0.3,7x3w0.2,asys0.3,7x3w0.2,b5xg0.3,7x3w0.2,asys0.3,7x3w0.2,asys0.3,7k580.2,b5xg0.3,6u7w0.2,bvus0.3,6h980.2,c8tg0.3,64ak0.2,cyqs0.3,5anw0.2,1jms0.1,12t80.2,1w22s0.1,25p80.2,1sw40.1,2vmk0.2,4hbhg0.1,9cyk0.2,9d440.1,9px80.2,905g0.1,9px80.2,905g0.1,9px80.2,9d440.1,9cyk0.2,9d440.1,9cyk0.2,9d440.1,9cyk0.2,9d440.1,9px80.2,905g0.1,9px80.2,9d440.1,9cyk0.2,9d440.1,9cyk0.2,9d440.1,9cyk0.2,9d440.1,9cyk0.2,9d440.1,9px80.2,905g0.1,9px80.2|EET-2EEST,M4.5.5/0,M10.5.4/24"),
  ("Africa/Casablanca", "-1820,0;3600,1;0,0;3600,0;0,0|-tblt9g.2,di7nxg.1,3huk0.2,51k40.1,2znuk0.2,2dp9g0.1,776k0.2,8nt2s0.1,657w0.2,3ifxg0.1,3jp80.2,va040.1,4qak0.2,e1ms0.1,7pp80.2,cnms0.1,3afw0.2,2xi840.3,xqqk0.2,bp56s0.1,4qak0.2,e1ms0.1,45x80.2,d2g40.1,51ek0.2,c8tg0.1,64ak0.2,e1sc0.1,47uo0.2,1leo0.1,23xc0.2,asw00.1,3lmo0.2,1qyo0.1,40g00.2,7x6o0.1,4mo00.2,1stc0.1,4deo0.2,7x6o0.1,3ylc0.2,1stc0.1,51hc0.2,7x6o0.1,3lmo0.2,1stc0.1,5reo0.2,7k800.1,2vpc0.2,25s00.1,64dc0.2,7k800.1,2iqo0.2,1stc0.1,gkao0.2,1stc0.1,g7c00.2,25s00.1,g7c00.2,1stc0.1,g7c00.2,25s00.1,g7c00.2,1stc0.1,gkao0.2,1stc0.1,g7c00.2,25s00.1,g7c00.2,1stc0.1,gkao0.2,1stc0.1,g7c00.2,25s00.1,g7c00.2,1stc0.1,g7c00.2,25s00.1,g7c00.2,1stc0.1,gkao0.2,1stc0.1,g7c00.2,25s00.1,g7c00.2,1stc0.1,g7c00.2,25s00.1,g7c00.2,25s00.1,g7c00.2,1stc0.1,g7c00.2,25s00.1,g7c00.2,1stc0.1,gkao0.2,1stc0.1,g7c00.2,25s00.1,g7c00.2,1stc0.1,g7c00.2,25s00.1,g7c00.2,25s00.1,g7c00.2,1stc0.1,g7c00.2,25s00.1,g7c00.2,1stc0.1,gkao0.2,1stc0.1,g7c00.2,25s00.1,g7c00.2,1stc0.1,g7c00.2,25s00.1,g7c00.2,25s00.1,g7c00.2,1stc0.1,g7c00.2,25s00.1,g7c00.2,1stc0.1,gkao0.2,1stc0.1,g7c00.2,25s00.1,g7c00.2,1stc0.1,g7c00.2,25s00.1,g7c00.2,25s00.1,g7c00.2,1stc0.1,g7c00.2,25s00.1,g7c00.2,1stc0.1,gkao0.2,1stc0.1,g7c00.2,25s00.1,g7c00.2,1stc0.1,g7c00.2,25s00.1,g7c00.2,25s00.1,g7c00.2,1stc0.1,g7c00.2,25s00.1,g7c00.2,1stc0.1,gkao0.2,1stc0.1,g7c00.2,25s00.1,g7c00.2,1stc0.1,g7c00.2,25s00.1,g7c00.2,25s00.1,g7c00.2,1stc0.1,g7c00.2,25s00.1,g7c00.2,1stc0.1,gkao0.2,1stc0.1,g7c00.2,25s00.1,g7c00.2,1stc0.1,g7c00.2,25s00.1,g7c00.2,1stc0.1,gkao0.2,1stc0.1,g7c00.2,25s00.1,g7c00.2,1stc0.1,gkao0.2,1stc0.1,g7c00.2,25s00.1|<+00>0<+01>,0/0,J365/25"),
  ("Africa/Ceuta", "-1276,0;0,0;3600,1;0,0;0,0;3600,0;7200,1;3600,0|-100edc0.1,91vek0.2,7x3w0.3,2vt440.2,8sqs0.4,ssyk0.2,8n6s0.4,9px80.2,905g0.4,a2yo0.2,902o0.4,k69dc0.2,657w0.3,3ifxg0.2,3jp80.3,va040.2,4qak0.3,e1ms0.2,7pp80.3,cnms0.2,3afw0.3,2xi840.5,129us0.6,9d1c0.7,9d1c0.6,9d1c0.7,9d1c0.6,9d1c0.7,9d1c0.6,9d1c0.7,9d1c0.6,9q000.7,9d1c0.6,9d1c0.7,9d1c0.6,9d1c0.7,9d1c0.6,9d1c0.7,9d1c0.6,9d1c0.7,9d1c0.6,9d1c0.7,9q000.6,asw00.7,7x6o0.6,asw00.7,7x6o0.6,asw00.7,7x6o0.6,b5uo0.7,7k800.6,b5uo0.7,7k800.6,b5uo0.7,7x6o0.6,asw00.7,7x6o0.6,asw00.7,7x6o0.6,b5uo0.7,7k800.6,b5uo0.7,7k800.6,b5uo0.7,7k800.6,b5uo0.7,7x6o0.6,asw00.7,7x6o0.6,asw00.7,7x6o0.6,b5uo0.7,7k800.6,b5uo0.7,7k800.6,b5uo0.7,7x6o0.6,asw00.7,7x6o0.6,asw00.7,7x6o0.6,asw00.7,7x6o0.6,b5uo0.7,7k800.6,b5uo0.7,7k800.6,b5uo0.7,7x6o0.6,asw00.7,7x6o0.6,asw00.7,7x6o0.6,b5uo0.7,7k800.6,b5uo0.7,7k800.6,b5uo0.7,7x6o0.6,asw00.7,7x6o0.6,asw00.7,7x6o0.6,asw00.7,7x6o0.6,b5uo0.7,7k800.6,b5uo0.7,7k800.6,b5uo0.7,7x6o0.6,asw00.7,7x6o0.6,asw00.7,7x6o0.6,b5uo0.7,7k800.6,b5uo0.7,7k800.6,b5uo0.7,7k800.6,b5uo0.7,7x6o0.6,asw00.7,7x6o0.6,asw00.7|CET-1CEST,M3.5.0,M10.5.0/3"),
  ("Africa/Conakry", "-3292,0;0,0;-3600,0;0,0|-u9resk.1,bk944k.2,dhlk40.1|GMT0"),
  ("Africa/Dakar", "-4184,0;-3600,0;0,0|-u9re3s.1,fcoa7s.2|GMT0"),
  ("Africa/Dar_es_Salaam", "9428,0;10800,0;9900,0;10800,0|-kcrtxw.1,8ve49w.2,6sagp0.1|EAT-3"),
  ("Africa/Djibouti", "10356,0;10800,0|-uj8fzo.1|EAT-3"),
  ("Africa/Douala", "2328,0;3600,0|-u9rj4o.1|WAT-1"),
  ("Africa/El_Aaiun", "-3168,0;-3600,0;3600,1;0,0|-isdxk0.1,m2g0c0.3,vek0.2,4qak0.3,e1ms0.2,7pp80.3,cnms0.2,3afw0.3,fke5g0.2,4qak0.3,e1ms0.2,45x80.3,d2g40.2,51ek0.3,c8tg0.2,64ak0.3,e1sc0.2,47uo0.3,1leo0.2,23xc0.3,asw00.2,3lmo0.3,1qyo0.2,40g00.3,7x6o0.2,4mo00.3,1stc0.2,4deo0.3,7x6o0.2,3ylc0.3,1stc0.2,51hc0.3,7x6o0.2,3lmo0.3,1stc0.2,5reo0.3,7k800.2,2vpc0.3,25s00.2,64dc0.3,7k800.2,2iqo0.3,1stc0.2,gkao0.3,1stc0.2,g7c00.3,25s00.2,g7c00.3,1stc0.2,g7c00.3,25s00.2,g7c00.3,1stc0.2,gkao0.3,1stc0.2,g7c00.3,25s00.2,g7c00.3,1stc0.2,gkao0.3,1stc0.2,g7c00.3,25s00.2,g7c00.3,1stc0.2,g7c00.3,25s00.2,g7c00.3,1stc0.2,gkao0.3,1stc0.2,g7c00.3,25s00.2,g7c00.3,1stc0.2,g7c00.3,25s00.2,g7c00.3,25s00.2,g7c00.3,1stc0.2,g7c00.3,25s00.2,g7c00.3,1stc0.2,gkao0.3,1stc0.2,g7c00.3,25s00.2,g7c00.3,1stc0.2,g7c00.3,25s00.2,g7c00.3,25s00.2,g7c00.3,1stc0.2,g7c00.3,25s00.2,g7c00.3,1stc0.2,gkao0.3,1stc0.2,g7c00.3,25s00.2,g7c00.3,1stc0.2,g7c00.3,25s00.2,g7c00.3,25s00.2,g7c00.3,1stc0.2,g7c00.3,25s00.2,g7c00.3,1stc0.2,gkao0.3,1stc0.2,g7c00.3,25s00.2,g7c00.3,1stc0.2,g7c00.3,25s00.2,g7c00.3,25s00.2,g7c00.3,1stc0.2,g7c00.3,25s00.2,g7c00.3,1stc0.2,gkao0.3,1stc0.2,g7c00.3,25s00.2,g7c00.3,1stc0.2,g7c00.3,25s00.2,g7c00.3,25s00.2,g7c00.3,1stc0.2,g7c00.3,25s00.2,g7c00.3,1stc0.2,gkao0.3,1stc0.2,g7c00.3,25s00.2,g7c00.3,1stc0.2,g7c00.3,25s00.2,g7c00.3,25s00.2,g7c00.3,1stc0.2,g7c00.3,25s00.2,g7c00.3,1stc0.2,gkao0.3,1stc0.2,g7c00.3,25s00.2,g7c00.3,1stc0.2,g7c00.3,25s00.2,g7c00.3,1stc0.2,gkao0.3,1stc0.2,g7c00.3,25s00.2,g7c00.3,1stc0.2,gkao0.3,1stc0.2,g7c00.3,25s00.2|<+00>0<+01>,0/0,J365/25"),
  ("Africa/Freetown", "-3180,0;-3180,0;-2400,1;-3600,0;0,0|-19xcavo.1,gfpuo0.3,a4v6zo.2,681qo.3,7vcxc.2,awkeo.3,7vcxc.2,awkeo.3,7vcxc.2,ayf2o.3,7vcxc.2,awkeo.3,7vcxc.2,awkeo.3,7vcxc.2,e1j2o.3,4qe9c.2,7dqo.3,16dy9c.4|GMT0"),
  ("Africa/Gaborone", "6220,0;5400,0;7200,0;10800,1|-18cyvgs.1,9h5hys.2,l5xqu0.3,9cyk0.2|CAT-2"),
  ("Africa/Harare", "7452,0;7200,0|-yvtf30.1|CAT-2"),
  ("Africa/Johannesburg", "6720,0;5400,0;10800,1;7200,0|-14nj6io.1,5rpt0o.3,kn7o60.2,9cyk0.3,9d440.2,9cyk0.3|SAST-2"),
  ("Africa/Juba", "7588,0;10800,1;7200,0;10800,0;7200,0|-kcrsis.2,kixuys.1,8l6k0.2,a4w40.1,8n180.2,a6qs0.1,8n180.2,a31g0.1,8ovw0.2,a16s0.1,8qqk0.2,9zc40.1,8sl80.2,9xhg0.1,8wak0.2,9ts40.1,8y580.2,a4w40.1,8n180.2,a31g0.1,8ovw0.2,a16s0.1,8sl80.2,9xhg0.1,8ufw0.2,9vms0.1,8wak0.2,9ts40.1,8y580.2,a4w40.1,8ovw0.2,a16s0.1,8qqk0.2,7frw40.3,azg180.2|CAT-2"),
  ("Africa/Kampala", "7780,0;10800,0;9000,0;9900,0;10800,0|-lnse04.1,s8lo4.2,9e6420.3,4p4vb0.1|EAT-3"),
  ("Africa/Khartoum", "7808,0;10800,1;7200,0;10800,0;7200,0|-kcrsow.2,kixv4w.1,8l6k0.2,a4w40.1,8n180.2,a6qs0.1,8n180.2,a31g0.1,8ovw0.2,a16s0.1,8qqk0.2,9zc40.1,8sl80.2,9xhg0.1,8wak0.2,9ts40.1,8y580.2,a4w40.1,8n180.2,a31g0.1,8ovw0.2,a16s0.1,8sl80.2,9xhg0.1,8ufw0.2,9vms0.1,8wak0.2,9ts40.1,8y580.2,a4w40.1,8ovw0.2,a16s0.1,8qqk0.2,7frw40.3,9ac180.2|CAT-2"),
  ("Africa/Kigali", "7216,0;7200,0|-i1ulkg.1|CAT-2"),
  ("Africa/Kinshasa", "3672,0;3600,0|-11ngdi0.1|WAT-1"),
  ("Africa/Lagos", "815,0;0,0;1800,0;3600,0|-xnxnan.1,1kdnan.0,2ve7dd.2,2yfgkn.3|WAT-1"),
  ("Africa/Libreville", "2268,0;3600,0|-u9rj30.1|WAT-1"),
  ("Africa/Lome", "292,0;0,0|-146nmw4.1|GMT0"),
  ("Africa/Luanda", "3176,0;3124,0;3600,0|-14phh48.1,afpx08.2|WAT-1"),
  ("Africa/Lubumbashi", "6592,0;3600,0;7200,0|-11ngfr4.1,bpwyb4.2|CAT-2"),
  ("Africa/Lusaka", "6788,0;7200,0|-yvtekk.1|CAT-2"),
  ("Africa/Malabo", "2108,0;0,0;3600,0|-u9riyk.1,r44sak.2|WAT-1"),
  ("Africa/Maputo", "7818,0;7200,0|-vu3fd6.1|CAT-2"),
  ("Africa/Maseru", "6600,0;7200,0;10800,1|-yvtefc.1,l5xrrc.2,9cyk0.1|SAST-2"),
  ("Africa/Mbabane", "7464,0;7200,0|-yvtf3c.1|SAST-2"),
  ("Africa/Mogadishu", "10888,0;10800,0;9000,0;10800,0|-13r0weg.1,je91eg.2,dkj2q0.1|EAT-3"),
  ("Africa/Monrovia", "-2588,0;-2588,0;-2670,0;0,0|-19xcbc4.1,je5c00.2,rl202a.3|GMT0"),
  ("Africa/Nairobi", "8836,0;9000,0;10800,0;9900,0;10800,0|-w6p5hg.1,aiwqjg.2,sg1a0.1,3nbte0.3,2wu1z0.2|EAT-3"),
  ("Africa/Ndjamena", "3612,0;3600,0;7200,1|-u9rk4c.1,zdk5cc.2,7iak0.1|WAT-1"),
  ("Africa/Niamey", "508,0;-3600,0;0,0;3600,0|-u9rhq4.1,bk99u4.2,dhlek0.3|WAT-1"),
  ("Africa/Nouakchott", "-3828,0;0,0;-3600,0;0,0|-u9redo.1,bk93po.2,dyodg0.1|GMT0"),
  ("Africa/Ouagadougou", "-364,0;0,0|-u9rh1w.1|GMT0"),
  ("Africa/Porto-Novo", "628,0;0,0;3600,0|-u9rhtg.1,bk975g.2|WAT-1"),
  ("Africa/Sao_Tome", "1616,0;-2205,0;0,0;3600,0;0,0|-18vsjww.1,em12kw.2,1jbm840.3,irxc0.4|GMT0"),
  ("Africa/Tripoli", "3164,0;7200,1;3600,0;7200,0|-q3gfrw.2,gl6ajw.1,422c0.2,xado0.1,4bbo0.2,wrpg0.1,4s580.2,1kdpg0.3,c05bw0.2,4mqs0.1,9et80.2,9d440.1,9et80.2,9eys0.1,9et80.2,9mdg0.1,95jw0.2,9io40.1,9cyk0.2,99es0.1,9et80.2,9eys0.1,9et80.2,9d440.1,9et80.2,b2840.3,3cf3w0.2,9kis0.1,9et80.3,7vqyw0.2,75eo0.1,asw00.3|EET-2"),
  ("Africa/Tunis", "2444,0;561,0;7200,1;3600,0;3600,0;7200,1|-1a9dr7w.1,fke44b.4,enxevl.2,b5uo0.3,53c00.2,u8w00.4,7x9g0.5,c8w80.4,7k800.5,z3w0.4,ew40.5,8bx80.4,9d440.5,9nx00.4,925o0.5,8l100.4,gi3440.2,7k800.3,b9k00.2,7vc00.3,51mw00.2,5ytc0.3,9d1c0.2,9d1c0.3,b9k00.2,7thc0.3,7m0tc0.2,7tk40.3,93us0.2,b5uo0.3,7k800.2,b5uo0.3,7x6o0.2,asw00.3|CET-1"),
  ("Africa/Windhoek", "4104,0;5400,0;7200,0;10800,1;7200,0;3600,0;7200,1;7200,0|-14nj4i0.1,5rpr00.2,kn7o60.3,9cyk0.2,oj2nw0.4,235k00.5,8lho0.6,ast80.5,7x9g0.6,b5rw0.5,7kas0.6,b5rw0.5,7x9g0.6,ast80.5,7x9g0.6,ast80.5,7x9g0.6,ast80.5,7x9g0.6,ast80.5,7x9g0.6,b5rw0.5,7kas0.6,b5rw0.5,7x9g0.6,ast80.5,7x9g0.6,ast80.5,7x9g0.6,ast80.5,7x9g0.6,ast80.5,7x9g0.6,b5rw0.5,7x9g0.6,ast80.5,7x9g0.6,ast80.5,7x9g0.6,ast80.5,7x9g0.6,ast80.5,7x9g0.6,b5rw0.5,7kas0.6,b5rw0.5,7x9g0.6,ast80.5,7x9g0.6,ast80.5,7x9g0.6,ast80.5,7x9g0.6,2m7o0.4|CAT-2"),
  ("America/Adak", "44002,0;-42398,0;-39600,0;-36000,1;-36000,1;-39600,0;-36000,1;-36000,0;-32400,1;-36000,0|-1hc7qjz.1,h4z1xp.2,ln70qa.3,1tyug0.4,2e6s0.2,b7yik0.5,12y080.6,9cyk0.5,9d440.6,9cyk0.5,9d440.6,9px80.5,9d440.6,9cyk0.5,9d440.6,9cyk0.5,3lpg0.6,f4d80.5,64g40.6,clmk0.5,9d440.6,9px80.5,905g0.6,9px80.5,9d440.6,9cyk0.5,9d440.6,9cyk0.5,9d440.6,9cyk0.5,9d440.6,9cyk0.5,9d440.6,9px80.5,905g0.6,9px80.7,1l940.9,7rs80.8,9cyk0.9,9d440.8,9cyk0.9,9d440.8,9cyk0.9,8a840.8,afuk0.9,8a840.8,ast80.9,7x9g0.8,ast80.9,7x9g0.8,ast80.9,8a840.8,afuk0.9,8a840.8,afuk0.9,8a840.8,ast80.9,7x9g0.8,ast80.9,7x9g0.8,ast80.9,8a840.8,afuk0.9,8a840.8,afuk0.9,8a840.8,afuk0.9,8a840.8,ast80.9,7x9g0.8,ast80.9,7x9g0.8,ast80.9,8a840.8,afuk0.9,8a840.8,afuk0.9,8a840.8,ast80.9,7x9g0.8,ast80.9,7x9g0.8,ast80.9,6udg0.8,c8nw0.9,6hes0.8,c8nw0.9,6hes0.8,c8nw0.9,6udg0.8,c8nw0.9,6hes0.8,c8nw0.9,6hes0.8,c8nw0.9,6hes0.8,c8nw0.9,6hes0.8,c8nw0.9,6hes0.8,c8nw0.9,6udg0.8,c8nw0.9,6hes0.8,c8nw0.9,6hes0.8,c8nw0.9,6hes0.8,c8nw0.9,6hes0.8,c8nw0.9,6udg0.8,c8nw0.9,6hes0.8,c8nw0.9,6hes0.8,c8nw0.9,6hes0.8,c8nw0.9,6hes0.8,c8nw0.9,6hes0.8,c8nw0.9,6udg0.8,c8nw0.9,6hes0.8,c8nw0.9,6hes0.8,c8nw0.9,6hes0.8,c8nw0.9,6hes0.8,c8nw0.9,6udg0.8,c8nw0.9,6hes0.8,c8nw0.9,6hes0.8,c8nw0.9,6hes0.8,c8nw0.9,6hes0.8,c8nw0.9,6hes0.8,c8nw0.9|HST10HDT,M3.2.0,M11.1.0"),
  ("America/Anchorage", "50424,0;-35976,0;-36000,0;-32400,1;-32400,1;-36000,0;-32400,1;-32400,0;-28800,1;-32400,0|-1hc7qjz.1,h4ywzb.2,ln72wo.3,1tyx80.4,2e400.2,b7yik0.5,12y080.6,9cyk0.5,9d440.6,9cyk0.5,9d440.6,9px80.5,9d440.6,9cyk0.5,9d440.6,9cyk0.5,3lpg0.6,f4d80.5,64g40.6,clmk0.5,9d440.6,9px80.5,905g0.6,9px80.5,9d440.6,9cyk0.5,9d440.6,9cyk0.5,9d440.6,9cyk0.5,9d440.6,9cyk0.5,9d440.6,9px80.5,905g0.6,9px80.7,1l940.9,7rs80.8,9cyk0.9,9d440.8,9cyk0.9,9d440.8,9cyk0.9,8a840.8,afuk0.9,8a840.8,ast80.9,7x9g0.8,ast80.9,7x9g0.8,ast80.9,8a840.8,afuk0.9,8a840.8,afuk0.9,8a840.8,ast80.9,7x9g0.8,ast80.9,7x9g0.8,ast80.9,8a840.8,afuk0.9,8a840.8,afuk0.9,8a840.8,afuk0.9,8a840.8,ast80.9,7x9g0.8,ast80.9,7x9g0.8,ast80.9,8a840.8,afuk0.9,8a840.8,afuk0.9,8a840.8,ast80.9,7x9g0.8,ast80.9,7x9g0.8,ast80.9,6udg0.8,c8nw0.9,6hes0.8,c8nw0.9,6hes0.8,c8nw0.9,6udg0.8,c8nw0.9,6hes0.8,c8nw0.9,6hes0.8,c8nw0.9,6hes0.8,c8nw0.9,6hes0.8,c8nw0.9,6hes0.8,c8nw0.9,6udg0.8,c8nw0.9,6hes0.8,c8nw0.9,6hes0.8,c8nw0.9,6hes0.8,c8nw0.9,6hes0.8,c8nw0.9,6udg0.8,c8nw0.9,6hes0.8,c8nw0.9,6hes0.8,c8nw0.9,6hes0.8,c8nw0.9,6hes0.8,c8nw0.9,6hes0.8,c8nw0.9,6udg0.8,c8nw0.9,6hes0.8,c8nw0.9,6hes0.8,c8nw0.9,6hes0.8,c8nw0.9,6hes0.8,c8nw0.9,6udg0.8,c8nw0.9,6hes0.8,c8nw0.9,6hes0.8,c8nw0.9,6hes0.8,c8nw0.9,6hes0.8,c8nw0.9,6hes0.8,c8nw0.9|AKST9AKDT,M3.2.0,M11.1.0"),
  ("America/Anguilla", "-15136,0;-14400,0|-u6m6zk.1|AST4"),
  ("America/Antigua", "-14832,0;-18000,0;-14400,0|-u6m780.1,k9mqg0.2|AST4"),
  ("America/Araguaina", "-11568,0;-7200,1;-10800,0|-t85j2o.2,99k8mo.1,9a9c0.2,9io40.1,99980.2,8p65g0.1,6zuo0.2,bs2o0.1,67zw0.2,cjxg0.1,69uk0.2,cjxg0.1,4ml80.2,5mf440.1,49mk0.2,haas0.1,316k0.2,cls40.1,4ml80.2,cls40.1,66580.2,cls40.1,67zw0.2,981s40.1,6u7w0.2,biw40.1,5rbw0.2,d0lg0.1,5ed80.2,cyqs0.1,5ed80.2,dbpg0.1,64ak0.2,2yl440.1,64ak0.2,c8tg0.1,6u7w0.2,bxpg0.1,7iak0.2,biw40.1,6u7w0.2,biw40.1,7k580.2,biw40.1,6u7w0.2,c8tg0.1,6h980.2,dbpg0.1,5ed80.2,51udg0.1,64ak0.2,d07nfj.2|<-03>3"),
  ("America/Argentina/Buenos_Aires", "-14028,0;-15408,0;-14400,0;-10800,1;-7200,1;-10800,0|-138aaic.1,db2bqc.2,5iv8k0.3,67zw0.2,a4w40.3,73h80.2,cls40.3,66580.2,cls40.3,66580.2,cls40.3,66580.2,cls40.3,67zw0.2,cls40.3,66580.2,cls40.3,66580.2,cls40.3,66580.2,cls40.3,67zw0.2,6a040.3,hy7w0.2,6a040.3,xovw0.2,3uys0.3,18nbw0.2,b0dg0.3,8ve2k0.2,3uys0.3,3yik0.2,bqas0.3,71mk0.2,bqas0.3,71mk0.2,bqas0.3,8ovw0.2,9d440.3,9px80.2,9d440.3,9cyk0.2,9d440.5,28t6k0.4,51ek0.5,7m2qs0.4,4tzw0.5,biw40.4,776k0.5,bvus0.4,6u7w0.5,bvus0.4,6u7w0.5,bvus0.4,776k0.5,3fidg0.3,7thc0.5,430lc0.4,3yik0.5,b5xg0.4,7k580.5,f2123j.5|<-03>3"),
  ("America/Argentina/Catamarca", "-15788,0;-15408,0;-14400,0;-10800,1;-7200,1;-10800,0|-138a95g.1,db2adg.2,5iv8k0.3,67zw0.2,a4w40.3,73h80.2,cls40.3,66580.2,cls40.3,66580.2,cls40.3,66580.2,cls40.3,67zw0.2,cls40.3,66580.2,cls40.3,66580.2,cls40.3,66580.2,cls40.3,67zw0.2,6a040.3,hy7w0.2,6a040.3,xovw0.2,3uys0.3,18nbw0.2,b0dg0.3,8ve2k0.2,3uys0.3,3yik0.2,bqas0.3,71mk0.2,bqas0.3,71mk0.2,bqas0.3,8ovw0.2,9d440.3,9px80.2,9d440.3,9cyk0.2,9d440.5,28t6k0.4,51ek0.5,7m2qs0.4,4tzw0.5,biw40.4,776k0.5,bvus0.4,6u7w0.2,bvxk0.4,6u540.5,bvus0.4,776k0.5,3fidg0.3,7thc0.5,27s800.2,z9g0.5,1u93w0.4,3yik0.5,fkr4rj.5|<-03>3"),
  ("America/Argentina/Cordoba", "-15408,0;-15408,0;-14400,0;-10800,1;-7200,1;-10800,0|-138a9g0.1,db2ao0.2,5iv8k0.3,67zw0.2,a4w40.3,73h80.2,cls40.3,66580.2,cls40.3,66580.2,cls40.3,66580.2,cls40.3,67zw0.2,cls40.3,66580.2,cls40.3,66580.2,cls40.3,66580.2,cls40.3,67zw0.2,6a040.3,hy7w0.2,6a040.3,xovw0.2,3uys0.3,18nbw0.2,b0dg0.3,8ve2k0.2,3uys0.3,3yik0.2,bqas0.3,71mk0.2,bqas0.3,71mk0.2,bqas0.3,8ovw0.2,9d440.3,9px80.2,9d440.3,9cyk0.2,9d440.5,28t6k0.4,51ek0.5,7m2qs0.4,4tzw0.5,biw40.4,776k0.5,bvus0.4,6u7w0.2,bvxk0.4,6u540.5,bvus0.4,776k0.5,3fidg0.3,7thc0.5,430lc0.4,3yik0.5,b5xg0.4,7k580.5,f2123j.5|<-03>3"),
  ("America/Argentina/Jujuy", "-15672,0;-15408,0;-14400,0;-10800,1;-7200,1;-10800,0|-138a98o.1,db2ago.2,5iv8k0.3,67zw0.2,a4w40.3,73h80.2,cls40.3,66580.2,cls40.3,66580.2,cls40.3,66580.2,cls40.3,67zw0.2,cls40.3,66580.2,cls40.3,66580.2,cls40.3,66580.2,cls40.3,67zw0.2,6a040.3,hy7w0.2,6a040.3,xovw0.2,3uys0.3,18nbw0.2,b0dg0.3,8ve2k0.2,3uys0.3,3yik0.2,bqas0.3,71mk0.2,bqas0.3,71mk0.2,bqas0.3,8ovw0.2,9d440.3,9px80.2,9d440.3,9cyk0.2,9d440.5,28t6k0.4,51ek0.5,7m2qs0.4,4tzw0.5,biw40.4,776k0.2,c8w80.3,776k0.2,ag040.4,7k2g0.5,bvus0.4,776k0.5,3fidg0.3,7thc0.5,430lc0.4,3yik0.5,fkr4rj.5|<-03>3"),
  ("America/Argentina/La_Rioja", "-16044,0;-15408,0;-14400,0;-10800,1;-7200,1;-10800,0|-138a8yc.1,db2a6c.2,5iv8k0.3,67zw0.2,a4w40.3,73h80.2,cls40.3,66580.2,cls40.3,66580.2,cls40.3,66580.2,cls40.3,67zw0.2,cls40.3,66580.2,cls40.3,66580.2,cls40.3,66580.2,cls40.3,67zw0.2,6a040.3,hy7w0.2,6a040.3,xovw0.2,3uys0.3,18nbw0.2,b0dg0.3,8ve2k0.2,3uys0.3,3yik0.2,bqas0.3,71mk0.2,bqas0.3,71mk0.2,bqas0.3,8ovw0.2,9d440.3,9px80.2,9d440.3,9cyk0.2,9d440.5,28t6k0.4,51ek0.5,7m2qs0.4,4tzw0.5,biw40.4,776k0.5,bvus0.4,6qik0.2,3g880.5,8jbw0.4,6u7w0.5,bvus0.4,776k0.5,3fidg0.3,7thc0.5,27s800.2,z9g0.5,1u93w0.4,3yik0.5,fkr4rj.5|<-03>3"),
  ("America/Argentina/Mendoza", "-16516,0;-15408,0;-14400,0;-10800,1;-7200,1;-10800,0|-138a8l8.1,db29t8.2,5iv8k0.3,67zw0.2,a4w40.3,73h80.2,cls40.3,66580.2,cls40.3,66580.2,cls40.3,66580.2,cls40.3,67zw0.2,cls40.3,66580.2,cls40.3,66580.2,cls40.3,66580.2,cls40.3,67zw0.2,6a040.3,hy7w0.2,6a040.3,xovw0.2,3uys0.3,18nbw0.2,b0dg0.3,8ve2k0.2,3uys0.3,3yik0.2,bqas0.3,71mk0.2,bqas0.3,71mk0.2,bqas0.3,8ovw0.2,9d440.3,9px80.2,9d440.3,9cyk0.2,9d440.5,28t6k0.4,51ek0.5,7m2qs0.4,4tzw0.5,biw40.4,776k0.2,bktk0.3,71mk0.2,bqas0.3,73h80.2,bvus0.4,773s0.5,3fidg0.3,7thc0.5,27bk00.2,6hes0.5,1p7mk0.4,3yik0.5,fkr4rj.5|<-03>3"),
  ("America/Argentina/Rio_Gallegos", "-16612,0;-15408,0;-14400,0;-10800,1;-7200,1;-10800,0|-138a8ik.1,db29qk.2,5iv8k0.3,67zw0.2,a4w40.3,73h80.2,cls40.3,66580.2,cls40.3,66580.2,cls40.3,66580.2,cls40.3,67zw0.2,cls40.3,66580.2,cls40.3,66580.2,cls40.3,66580.2,cls40.3,67zw0.2,6a040.3,hy7w0.2,6a040.3,xovw0.2,3uys0.3,18nbw0.2,b0dg0.3,8ve2k0.2,3uys0.3,3yik0.2,bqas0.3,71mk0.2,bqas0.3,71mk0.2,bqas0.3,8ovw0.2,9d440.3,9px80.2,9d440.3,9cyk0.2,9d440.5,28t6k0.4,51ek0.5,7m2qs0.4,4tzw0.5,biw40.4,776k0.5,bvus0.4,6u7w0.5,bvus0.4,6u7w0.5,bvus0.4,776k0.5,3fidg0.3,7thc0.5,27s800.2,z9g0.5,1u93w0.4,3yik0.5,fkr4rj.5|<-03>3"),
  ("America/Argentina/Salta", "-15700,0;-15408,0;-14400,0;-10800,1;-7200,1;-10800,0|-138a97w.1,db2afw.2,5iv8k0.3,67zw0.2,a4w40.3,73h80.2,cls40.3,66580.2,cls40.3,66580.2,cls40.3,66580.2,cls40.3,67zw0.2,cls40.3,66580.2,cls40.3,66580.2,cls40.3,66580.2,cls40.3,67zw0.2,6a040.3,hy7w0.2,6a040.3,xovw0.2,3uys0.3,18nbw0.2,b0dg0.3,8ve2k0.2,3uys0.3,3yik0.2,bqas0.3,71mk0.2,bqas0.3,71mk0.2,bqas0.3,8ovw0.2,9d440.3,9px80.2,9d440.3,9cyk0.2,9d440.5,28t6k0.4,51ek0.5,7m2qs0.4,4tzw0.5,biw40.4,776k0.5,bvus0.4,6u7w0.2,bvxk0.4,6u540.5,bvus0.4,776k0.5,3fidg0.3,7thc0.5,430lc0.4,3yik0.5,fkr4rj.5|<-03>3"),
  ("America/Argentina/San_Juan", "-16444,0;-15408,0;-14400,0;-10800,1;-7200,1;-10800,0|-138a8n8.1,db29v8.2,5iv8k0.3,67zw0.2,a4w40.3,73h80.2,cls40.3,66580.2,cls40.3,66580.2,cls40.3,66580.2,cls40.3,67zw0.2,cls40.3,66580.2,cls40.3,66580.2,cls40.3,66580.2,cls40.3,67zw0.2,6a040.3,hy7w0.2,6a040.3,xovw0.2,3uys0.3,18nbw0.2,b0dg0.3,8ve2k0.2,3uys0.3,3yik0.2,bqas0.3,71mk0.2,bqas0.3,71mk0.2,bqas0.3,8ovw0.2,9d440.3,9px80.2,9d440.3,9cyk0.2,9d440.5,28t6k0.4,51ek0.5,7m2qs0.4,4tzw0.5,biw40.4,776k0.5,bvus0.4,6qik0.2,3g880.5,8jbw0.4,6u7w0.5,bvus0.4,776k0.5,3fidg0.3,7thc0.5,27qdc0.2,2txg0.5,1sgak0.4,3yik0.5,fkr4rj.5|<-03>3"),
  ("America/Argentina/San_Luis", "-15924,0;-15408,0;-14400,0;-10800,1;-7200,1;-10800,0;-10800,1|-138a91o.1,db2a9o.2,5iv8k0.3,67zw0.2,a4w40.3,73h80.2,cls40.3,66580.2,cls40.3,66580.2,cls40.3,66580.2,cls40.3,67zw0.2,cls40.3,66580.2,cls40.3,66580.2,cls40.3,66580.2,cls40.3,67zw0.2,6a040.3,hy7w0.2,6a040.3,xovw0.2,3uys0.3,18nbw0.2,b0dg0.3,8ve2k0.2,3uys0.3,3yik0.2,bqas0.3,71mk0.2,bqas0.3,71mk0.2,bqas0.3,8ovw0.2,9d440.3,9px80.2,9d440.3,9cyk0.2,9d440.5,28t6k0.4,51ek0.5,7m2qs0.4,4tzw0.5,biw40.4,7pp80.2,b2aw0.3,71mk0.2,4qg40.5,4conw0.3,7thc0.5,27qdc0.2,2txg0.5,1sgak0.4,14nw0.3,2gys0.2,b5xg0.3,7k580.2,b5xg0.5,er80jj.5|<-03>3"),
  ("America/Argentina/Tucuman", "-15652,0;-15408,0;-14400,0;-10800,1;-7200,1;-10800,0|-138a998.1,db2ah8.2,5iv8k0.3,67zw0.2,a4w40.3,73h80.2,cls40.3,66580.2,cls40.3,66580.2,cls40.3,66580.2,cls40.3,67zw0.2,cls40.3,66580.2,cls40.3,66580.2,cls40.3,66580.2,cls40.3,67zw0.2,6a040.3,hy7w0.2,6a040.3,xovw0.2,3uys0.3,18nbw0.2,b0dg0.3,8ve2k0.2,3uys0.3,3yik0.2,bqas0.3,71mk0.2,bqas0.3,71mk0.2,bqas0.3,8ovw0.2,9d440.3,9px80.2,9d440.3,9cyk0.2,9d440.5,28t6k0.4,51ek0.5,7m2qs0.4,4tzw0.5,biw40.4,776k0.5,bvus0.4,6u7w0.2,bvxk0.4,6u540.5,bvus0.4,776k0.5,3fidg0.3,7thc0.5,27s800.2,mas0.5,1um2k0.4,3yik0.5,b5xg0.4,7k580.5,f2123j.5|<-03>3"),
  ("America/Argentina/Ushuaia", "-16392,0;-15408,0;-14400,0;-10800,1;-7200,1;-10800,0|-138a8oo.1,db29wo.2,5iv8k0.3,67zw0.2,a4w40.3,73h80.2,cls40.3,66580.2,cls40.3,66580.2,cls40.3,66580.2,cls40.3,67zw0.2,cls40.3,66580.2,cls40.3,66580.2,cls40.3,66580.2,cls40.3,67zw0.2,6a040.3,hy7w0.2,6a040.3,xovw0.2,3uys0.3,18nbw0.2,b0dg0.3,8ve2k0.2,3uys0.3,3yik0.2,bqas0.3,71mk0.2,bqas0.3,71mk0.2,bqas0.3,8ovw0.2,9d440.3,9px80.2,9d440.3,9cyk0.2,9d440.5,28t6k0.4,51ek0.5,7m2qs0.4,4tzw0.5,biw40.4,776k0.5,bvus0.4,6u7w0.5,bvus0.4,6u7w0.5,bvus0.4,776k0.5,3fidg0.3,7thc0.5,27oio0.2,12ys0.5,1u93w0.4,3yik0.5,fkr4rj.5|<-03>3"),
  ("America/Aruba", "-16824,0;-16200,0;-14400,0|-u7lcco.1,rlo7io.2|AST4"),
  ("America/Asuncion", "-13840,0;-13840,0;-14400,0;-10800,0;-10800,1|-15r0ynk.1,lsruo0.2,ldwofk.3,s4vw0.2,s6w40.4,7tek0.2,b0dg0.4,7rjw0.2,b0dg0.4,7rjw0.2,b0dg0.4,9cyk0.2,9eys0.4,9et80.2,9eys0.4,9cyk0.2,9eys0.4,9cyk0.2,9eys0.4,9cyk0.2,9eys0.4,9et80.2,9eys0.4,9cyk0.2,9eys0.4,9cyk0.2,9eys0.4,9cyk0.2,9eys0.4,9et80.2,9eys0.4,9cyk0.2,ahus0.4,8a2k0.2,9eys0.4,9cyk0.2,9o840.4,7k580.2,b7s40.4,93p80.2,9gtg0.4,7nuk0.2,b42s0.4,7lzw0.2,b5xg0.4,7tek0.2,b9ms0.4,776k0.2,biw40.4,7k580.2,b5xg0.4,7x3w0.2,asys0.4,7x3w0.2,asys0.4,7x3w0.2,b5xg0.4,9cyk0.2,7kas0.4,b5rw0.2,7x9g0.4,ast80.2,a31g0.4,7k580.2,b5xg0.4,7k580.2,b5xg0.4,7k580.2,biw40.4,776k0.2,biw40.4,776k0.2,biw40.4,8zzw0.2,905g0.4,9px80.2,905g0.4,9px80.2,9d440.4,8n180.2,a31g0.4,8n180.2,a31g0.4,8n180.2,a31g0.4,8zzw0.2,9q2s0.4,8zzw0.2,9q2s0.4,8zzw0.2,a31g0.4,8n180.2,a31g0.4,8n180.2,a31g0.4,8zzw0.2,9q2s0.4,8zzw0.2,9q2s0.4,8zzw0.2,9q2s0.4,8zzw0.2,a31g0.4,gl80.3,6x6dzj.3|<-03>3"),
  ("America/Atikokan", "-21988,0;-18000,1;-21600,0;-18000,1;-18000,1;-18000,0|-1353b18.2,c5efx8.1,a2vw0.2,bfxjw0.1,pmdk0.3,1tz8c0.4,2dsw0.5|EST5"),
  ("America/Bahia", "-9244,0;-7200,1;-10800,0|-t85kv8.2,99kaf8.1,9a9c0.2,9io40.1,99980.2,8p65g0.1,6zuo0.2,bs2o0.1,67zw0.2,cjxg0.1,69uk0.2,cjxg0.1,4ml80.2,5mf440.1,49mk0.2,haas0.1,316k0.2,cls40.1,4ml80.2,cls40.1,66580.2,cls40.1,67zw0.2,981s40.1,6u7w0.2,biw40.1,5rbw0.2,d0lg0.1,5ed80.2,cyqs0.1,5ed80.2,dbpg0.1,64ak0.2,cyqs0.1,64ak0.2,cls40.1,5rbw0.2,dbpg0.1,51ek0.2,dbpg0.1,6h980.2,c8tg0.1,6h980.2,c8tg0.1,64ak0.2,c8tg0.1,6u7w0.2,bxpg0.1,7iak0.2,biw40.1,6u7w0.2,biw40.1,7k580.2,biw40.1,6u7w0.2,c8tg0.1,6h980.2,dbpg0.1,5ed80.2,4irc40.1,6u7w0.2,dikrfj.2|<-03>3"),
  ("America/Bahia_Banderas", "-25260,0;-25200,0;-21600,0;-21600,1;-25200,0;-18000,1;-21600,0|-p1u4k0.1,2u5s00.2,1si580.4,8jhg0.3,7x3w0.4,9eys0.2,591h80.4,s5qoc0.3,afuk0.4,8a840.3,afuk0.4,8a840.3,afuk0.4,8a840.3,ast80.4,7x9g0.3,ast80.4,9q2s0.3,7k580.4,9q2s0.3,afuk0.4,8a840.3,afuk0.4,8a840.3,ast80.4,7x9g0.3,ast80.4,7x9g0.3,ast80.4,7x9g0.3,ast80.4,8a840.3,afuk0.4,8a840.3,afuk0.4,8a840.5,asqg0.2,7x9g0.5,ast80.2,7x9g0.5,ast80.2,8a840.5,afuk0.2,8a840.5,afuk0.2,8a840.5,afuk0.2,8a840.5,ast80.2,7x9g0.5,ast80.2,7x9g0.5,ast80.2,8a840.5,afuk0.2,8a840.5,afuk0.2,8a840.5,ast80.2,7x9g0.5,ast80.2|CST6"),
  ("America/Barbados", "-14309,0;-10800,1;-14400,0;-14400,0;-12600,1;-10800,1|-ug8iaj.3,fzq06j.1,6w840.2,cjrw0.1,6hes0.2,b7mk0.4,7ves0.2,h3dpc0.5,5rbw0.3,a31g0.5,8n180.3,a31g0.5,8n180.3,ag040.5,84ik0.3|AST4"),
  ("America/Belem", "-11636,0;-7200,1;-10800,0|-t85j0s.2,99k8ks.1,9a9c0.2,9io40.1,99980.2,8p65g0.1,6zuo0.2,bs2o0.1,67zw0.2,cjxg0.1,69uk0.2,cjxg0.1,4ml80.2,5mf440.1,49mk0.2,haas0.1,316k0.2,cls40.1,4ml80.2,cls40.1,66580.2,cls40.1,67zw0.2,981s40.1,6u7w0.2,biw40.1,5rbw0.2,d0lg0.1,5ed80.2,q2ha3j.2|<-03>3"),
  ("America/Belize", "-21168,0;-19800,1;-21600,0;-18000,1;-18000,1;-18000,1|-u52ic0.2,3edkc0.1,6ham0.2,c8s20.1,6u9a0.2,bvte0.1,6u9a0.2,bvte0.1,6u9a0.2,c8s20.1,6ham0.2,c8s20.1,6ham0.2,c8s20.1,6u9a0.2,bvte0.1,6u9a0.2,bvte0.1,6u9a0.2,bvte0.1,6u9a0.2,c8s20.1,6ham0.2,c8s20.1,6ham0.2,c8s20.1,6u9a0.2,bvte0.1,6u9a0.2,bvte0.1,6u9a0.2,c8s20.1,6ham0.2,c8s20.1,6ham0.2,c8s20.1,6ham0.2,c8s20.1,6u9a0.2,bvte0.1,6u9a0.2,bvte0.1,6u9a0.2,c8s20.1,6ham0.2,c8s20.1,6ham0.2,c8s20.1,6u9a0.2,6uc20.3,1mtz80.4,6c8o0.2,xulg0.1,6u9a0.2,bvte0.1,6u9a0.2,bvte0.1,6u9a0.2,c8s20.1,6ham0.2,c8s20.1,6ham0.2,c8s20.1,6u9a0.2,bvte0.1,6u9a0.2,bvte0.1,6u9a0.2,bvte0.1,6u9a0.2,c8s20.1,6ham0.2,c8s20.1,6ham0.2,c8s20.1,6u9a0.2,bvte0.1,6u9a0.2,bvte0.1,6u9a0.2,c8s20.1,6ham0.2,c8s20.1,6ham0.2,c8s20.1,6ham0.2,c8s20.1,6u9a0.2,bvte0.1,6u9a0.2,bvte0.1,6u9a0.2,c8s20.1,6ham0.2,319de0.5,3e580.2,4mcys0.5,2vmk0.2|CST6"),
  ("America/Blanc-Sablon", "-13708,0;-10800,1;-14400,0;-10800,1;-10800,1|-18vs838.2,hw37f8.1,a2vw0.2,c5jxg0.3,1tzdw0.4,2dnc0.2|AST4"),
  ("America/Boa_Vista", "-14560,0;-10800,1;-14400,0|-t85grk.2,99k93k.1,9a9c0.2,9io40.1,99980.2,8p65g0.1,6zuo0.2,bs2o0.1,67zw0.2,cjxg0.1,69uk0.2,cjxg0.1,4ml80.2,5mf440.1,49mk0.2,haas0.1,316k0.2,cls40.1,4ml80.2,cls40.1,66580.2,cls40.1,67zw0.2,981s40.1,6u7w0.2,biw40.1,5rbw0.2,d0lg0.1,5ed80.2,62xk40.1,7k580.2,biw40.1,cvw0.2,jg3pzj.2|<-04>4"),
  ("America/Bogota", "-17776,0;-17776,0;-14400,1;-18000,0|-18s2sy8.1,g0p400.3,14f1hi8.2,eefw0.3,nghsjj.3|<-05>5"),
  ("America/Boise", "-27889,0;-25200,1;-28800,0;-28800,0;-21600,1;-21600,1;-25200,0;-21600,1|-18y0gg0.3,hxltk0.1,ast80.2,7x9g0.1,ast80.2,1um840.6,9s7jw0.4,1tz5k0.5,2dvo0.6,b9gdg0.7,9cyk0.6,9d440.7,9cyk0.6,9d440.7,9cyk0.6,9d440.7,9cyk0.6,9d440.7,9px80.6,9d440.7,9cyk0.6,9d440.7,9cyk0.6,51k40.7,doik0.6,64g40.7,clmk0.6,9d440.7,9px80.6,905g0.7,9px80.6,9d440.7,9cyk0.6,9d440.7,9cyk0.6,9d440.7,9cyk0.6,9d440.7,9cyk0.6,9d440.7,9px80.6,905g0.7,9px80.6,9d440.7,9cyk0.6,9d440.7,9cyk0.6,9d440.7,9cyk0.6,8a840.7,afuk0.6,8a840.7,ast80.6,7x9g0.7,ast80.6,7x9g0.7,ast80.6,8a840.7,afuk0.6,8a840.7,afuk0.6,8a840.7,ast80.6,7x9g0.7,ast80.6,7x9g0.7,ast80.6,8a840.7,afuk0.6,8a840.7,afuk0.6,8a840.7,afuk0.6,8a840.7,ast80.6,7x9g0.7,ast80.6,7x9g0.7,ast80.6,8a840.7,afuk0.6,8a840.7,afuk0.6,8a840.7,ast80.6,7x9g0.7,ast80.6,7x9g0.7,ast80.6,6udg0.7,c8nw0.6,6hes0.7,c8nw0.6,6hes0.7,c8nw0.6,6udg0.7,c8nw0.6,6hes0.7,c8nw0.6,6hes0.7,c8nw0.6,6hes0.7,c8nw0.6,6hes0.7,c8nw0.6,6hes0.7,c8nw0.6,6udg0.7,c8nw0.6,6hes0.7,c8nw0.6,6hes0.7,c8nw0.6,6hes0.7,c8nw0.6,6hes0.7,c8nw0.6,6udg0.7,c8nw0.6,6hes0.7,c8nw0.6,6hes0.7,c8nw0.6,6hes0.7,c8nw0.6,6hes0.7,c8nw0.6,6hes0.7,c8nw0.6,6udg0.7,c8nw0.6,6hes0.7,c8nw0.6,6hes0.7,c8nw0.6,6hes0.7,c8nw0.6,6hes0.7,c8nw0.6,6udg0.7,c8nw0.6,6hes0.7,c8nw0.6,6hes0.7,c8nw0.6,6hes0.7,c8nw0.6,6hes0.7,c8nw0.6,6hes0.7,c8nw0.6|MST7MDT,M3.2.0,M11.1.0"),
  ("America/Cambridge_Bay", "0,0;-21600,1;-21600,1;-25200,0;-21600,1;-18000,1;-21600,0;-18000,0;-21600,1;-25200,0|-q3gdc0.3,bjeec0.1,1tz5k0.2,2dvo0.3,dvfpg0.4,9cyk0.3,9d440.4,9cyk0.3,9d440.4,9cyk0.3,9d440.4,9cyk0.3,9d440.4,9px80.3,905g0.4,9px80.3,9d440.4,9cyk0.3,9d440.4,9cyk0.3,9d440.4,9cyk0.3,9d440.4,9cyk0.3,9d440.4,9px80.3,905g0.4,9px80.3,9d440.4,9cyk0.3,9d440.4,9cyk0.3,9d440.4,9cyk0.3,8a840.4,afuk0.3,8a840.4,ast80.3,7x9g0.4,ast80.3,7x9g0.4,ast80.3,8a840.4,afuk0.3,8a840.4,afuk0.3,8a840.4,ast80.3,7x9g0.4,ast80.3,7x9g0.4,ast80.3,8a840.4,afuk0.3,8a840.4,afuk0.3,8a840.4,afuk0.3,8a840.4,ast80.6,7x6o0.5,ast80.7,ct40.6,7kj40.4,ast80.3,8a840.4,afuk0.3,8a840.4,afuk0.3,8a840.4,ast80.3,7x9g0.4,ast80.3,7x9g0.4,ast80.3,6udg0.4,c8nw0.3,6hes0.4,c8nw0.3,6hes0.4,c8nw0.3,6udg0.4,c8nw0.3,6hes0.4,c8nw0.3,6hes0.4,c8nw0.3,6hes0.4,c8nw0.3,6hes0.4,c8nw0.3,6hes0.4,c8nw0.3,6udg0.4,c8nw0.3,6hes0.4,c8nw0.3,6hes0.4,c8nw0.3,6hes0.4,c8nw0.3,6hes0.4,c8nw0.3,6udg0.4,c8nw0.3,6hes0.4,c8nw0.3,6hes0.4,c8nw0.3,6hes0.4,c8nw0.3,6hes0.4,c8nw0.3,6hes0.4,c8nw0.3,6udg0.4,c8nw0.3,6hes0.4,c8nw0.3,6hes0.4,c8nw0.3,6hes0.4,c8nw0.3,6hes0.4,c8nw0.3,6udg0.4,c8nw0.3,6hes0.4,c8nw0.3,6hes0.4,c8nw0.3,6hes0.4,c8nw0.3,6hes0.4,c8nw0.3,6hes0.4,c8nw0.3|MST7MDT,M3.2.0,M11.1.0"),
  ("America/Campo_Grande", "-13108,0;-10800,1;-14400,0|-t85hvw.2,99ka7w.1,9a9c0.2,9io40.1,99980.2,8p65g0.1,6zuo0.2,bs2o0.1,67zw0.2,cjxg0.1,69uk0.2,cjxg0.1,4ml80.2,5mf440.1,49mk0.2,haas0.1,316k0.2,cls40.1,4ml80.2,cls40.1,66580.2,cls40.1,67zw0.2,981s40.1,6u7w0.2,biw40.1,5rbw0.2,d0lg0.1,5ed80.2,cyqs0.1,5ed80.2,dbpg0.1,64ak0.2,cyqs0.1,64ak0.2,cls40.1,5rbw0.2,dbpg0.1,51ek0.2,dbpg0.1,6h980.2,c8tg0.1,6h980.2,c8tg0.1,64ak0.2,c8tg0.1,6u7w0.2,bxpg0.1,7iak0.2,biw40.1,6u7w0.2,biw40.1,7k580.2,biw40.1,6u7w0.2,c8tg0.1,6h980.2,dbpg0.1,5ed80.2,cls40.1,64ak0.2,dfes0.1,5nmk0.2,c8tg0.1,6h980.2,dbpg0.1,5rbw0.2,bvus0.1,6h980.2,cls40.1,64ak0.2,cls40.1,6h980.2,c8tg0.1,6h980.2,c8tg0.1,6u7w0.2,c8tg0.1,64ak0.2,cls40.1,64ak0.2,cls40.1,6h980.2,c8tg0.1,6h980.2,c8tg0.1,6h980.2,c8tg0.1,6h980.2,dbpg0.1,5ed80.2,9vi5zj.2|<-04>4"),
  ("America/Cancun", "-20824,0;-21600,0;-18000,0;-18000,1;-21600,0;-14400,1;-18000,1;-18000,0|-p1u7c0.1,vb0dk0.2,j8d00.4,6x2wc0.3,afuk0.4,8a840.3,afuk0.2,8a5c0.5,64ak0.3,4bms0.4,8a840.3,ast80.4,7x9g0.3,ast80.4,9q2s0.3,7k580.4,9q2s0.3,afuk0.4,8a840.3,afuk0.4,8a840.3,ast80.4,7x9g0.3,ast80.4,7x9g0.3,ast80.4,7x9g0.3,ast80.4,8a840.3,afuk0.4,8a840.3,afuk0.4,8a840.3,ast80.4,7x9g0.3,ast80.4,7x9g0.3,ast80.4,8a840.3,afuk0.4,8a840.3,afuk0.4,51k40.2|EST5"),
  ("America/Caracas", "-16064,0;-16060,0;-16200,0;-14400,0|-15r0wxs.1,bjfjzw.2,rlo83w.3,meoxm0.2,4dps00.3,bc2g7j.3|<-04>4"),
  ("America/Cayenne", "-12560,0;-14400,0;-10800,0|-uj7yb4.1,tcw6r4.2,10ovsjj.2|<-03>3"),
  ("America/Cayman", "-19532,0;-18430,0;-18000,0|-15r0u9g.1,biv5te.2|EST5"),
  ("America/Chicago", "-21036,0;-18000,1;-21600,0;-21600,0;-18000,0;-18000,1;-18000,1;-21600,0|-18y0m00.3,hxltk0.1,ast80.2,7x9g0.1,ast80.2,bvus0.1,776k0.2,7kas0.1,b5rw0.2,9d440.1,7k580.2,b5xg0.1,7x3w0.2,asys0.1,7x3w0.2,asys0.1,7x3w0.2,asys0.1,7x3w0.2,asys0.1,7x3w0.2,b5xg0.1,7x3w0.2,asys0.1,7x3w0.2,asys0.1,7x3w0.2,asys0.1,7x3w0.2,asys0.1,7x3w0.2,b5xg0.1,7k580.2,b5xg0.1,7x3w0.2,asys0.1,7x3w0.2,7x9g0.4,dbjw0.2,8a840.1,7x3w0.2,asys0.1,7x3w0.2,b5xg0.1,7k580.2,b5xg0.1,7x3w0.2,asys0.1,7x3w0.2,6w840.5,1tz8c0.6,2dsw0.2,asys0.1,7x3w0.2,asys0.1,7x3w0.2,asys0.1,7x3w0.2,asys0.1,7x3w0.2,b5xg0.1,7k580.2,b5xg0.1,7x3w0.2,asys0.1,7x3w0.2,asys0.1,7x3w0.2,asys0.1,7x3w0.2,asys0.1,9px80.2,9d440.1,9cyk0.2,9d440.1,9cyk0.2,9d440.1,9cyk0.2,9d440.1,9cyk0.2,9d440.1,9px80.2,9d440.1,9cyk0.2,9d440.1,9cyk0.2,9d440.1,9cyk0.2,9d440.1,9cyk0.2,9d440.1,9px80.2,905g0.1,9px80.2,9d440.1,9cyk0.2,9d440.1,9cyk0.2,9d440.1,9cyk0.2,9d440.1,9cyk0.2,9d440.1,9px80.2,9d440.1,9cyk0.2,9d440.1,9cyk0.2,3lpg0.1,f4d80.2,64g40.1,clmk0.2,9d440.1,9px80.2,905g0.1,9px80.2,9d440.1,9cyk0.2,9d440.1,9cyk0.2,9d440.1,9cyk0.2,9d440.1,9cyk0.2,9d440.1,9px80.2,905g0.1,9px80.2,9d440.1,9cyk0.2,9d440.1,9cyk0.2,9d440.1,9cyk0.2,8a840.1,afuk0.2,8a840.1,ast80.2,7x9g0.1,ast80.2,7x9g0.1,ast80.2,8a840.1,afuk0.2,8a840.1,afuk0.2,8a840.1,ast80.2,7x9g0.1,ast80.2,7x9g0.1,ast80.2,8a840.1,afuk0.2,8a840.1,afuk0.2,8a840.1,afuk0.2,8a840.1,ast80.2,7x9g0.1,ast80.2,7x9g0.1,ast80.2,8a840.1,afuk0.2,8a840.1,afuk0.2,8a840.1,ast80.2,7x9g0.1,ast80.2,7x9g0.1,ast80.2,6udg0.1,c8nw0.2,6hes0.1,c8nw0.2,6hes0.1,c8nw0.2,6udg0.1,c8nw0.2,6hes0.1,c8nw0.2,6hes0.1,c8nw0.2,6hes0.1,c8nw0.2,6hes0.1,c8nw0.2,6hes0.1,c8nw0.2,6udg0.1,c8nw0.2,6hes0.1,c8nw0.2,6hes0.1,c8nw0.2,6hes0.1,c8nw0.2,6hes0.1,c8nw0.2,6udg0.1,c8nw0.2,6hes0.1,c8nw0.2,6hes0.1,c8nw0.2,6hes0.1,c8nw0.2,6hes0.1,c8nw0.2,6hes0.1,c8nw0.2,6udg0.1,c8nw0.2,6hes0.1,c8nw0.2,6hes0.1,c8nw0.2,6hes0.1,c8nw0.2,6hes0.1,c8nw0.2,6udg0.1,c8nw0.2,6hes0.1,c8nw0.2,6hes0.1,c8nw0.2,6hes0.1,c8nw0.2,6hes0.1,c8nw0.2,6hes0.1,c8nw0.2|CST6CDT,M3.2.0,M11.1.0"),
  ("America/Chihuahua", "-25460,0;-25200,0;-21600,0;-21600,1;-25200,0;-18000,1;-21600,1;-21600,0|-p1u4k0.1,2u5s00.2,1si580.4,8jhg0.3,7x3w0.4,9eys0.2,xes2s0.5,afuk0.2,8a840.5,afuk0.2,8aaw0.3,afuk0.4,8a840.3,ast80.4,7x9g0.3,ast80.4,9q2s0.3,7k580.4,9q2s0.3,afuk0.4,8a840.3,afuk0.4,8a840.3,ast80.4,7x9g0.3,ast80.4,7x9g0.3,ast80.4,7x9g0.3,ast80.4,8a840.3,afuk0.4,8a840.3,afuk0.4,8a840.3,ast80.4,7x9g0.3,ast80.4,7x9g0.3,ast80.4,8a840.3,afuk0.4,8a840.3,afuk0.4,8a840.3,afuk0.4,8a840.3,ast80.4,7x9g0.3,ast80.4,7x9g0.3,ast80.4,8a840.3,afuk0.4,8a840.3,afuk0.4,8a840.3,ast80.4,7x9g0.3,ast80.2|CST6"),
  ("America/Ciudad_Juarez", "-25556,0;-25200,0;-21600,0;-21600,1;-25200,0;-18000,1;-21600,1|-p1u4k0.1,2u5s00.2,1si580.4,8jhg0.3,7x3w0.4,9eys0.2,xes2s0.5,afuk0.2,8a840.5,afuk0.2,8aaw0.3,afuk0.4,8a840.3,ast80.4,7x9g0.3,ast80.4,9q2s0.3,7k580.4,9q2s0.3,afuk0.4,8a840.3,afuk0.4,8a840.3,ast80.4,7x9g0.3,ast80.4,7x9g0.3,ast80.4,7x9g0.3,ast80.4,8a840.3,afuk0.4,8a840.3,afuk0.4,77c40.3,c8nw0.4,6hes0.3,c8nw0.4,6hes0.3,c8nw0.4,6hes0.3,c8nw0.4,6hes0.3,c8nw0.4,6hes0.3,c8nw0.4,6udg0.3,c8nw0.4,6hes0.3,c8nw0.4,6hes0.3,c8nw0.4,6hes0.3,c8nw0.4,6hes0.3,c8nw0.4,6udg0.3,c8nw0.4,6hes0.3,bvp80.2,1l940.4,594c0.3,c8nw0.4,6hes0.3,c8nw0.4,6hes0.3,c8nw0.4,6hes0.3,c8nw0.4,6udg0.3,c8nw0.4,6hes0.3,c8nw0.4,6hes0.3,c8nw0.4,6hes0.3,c8nw0.4,6hes0.3,c8nw0.4,6udg0.3,c8nw0.4,6hes0.3,c8nw0.4,6hes0.3,c8nw0.4,6hes0.3,c8nw0.4,6hes0.3,c8nw0.4,6hes0.3,c8nw0.4|MST7MDT,M3.2.0,M11.1.0"),
  ("America/Costa_Rica", "-20173,0;-20173,0;-18000,1;-21600,0|-15r0trn.1,g74lc0.3,ubtl3n.2,51ek0.3,doo40.2,51ek0.3,5jso40.2,8drw0.3,acas0.2,2xh80.3|CST6"),
  ("America/Coyhaique", "-17296,0;-16965,0;-18000,0;-14400,0;-14400,1;-10800,1;-14400,0;-10800,0|-15r0vzk.1,ag6l2t.2,3dlssr.1,157b79.3,f4e0r.1,49hzb9.4,aye0r.2,7ves0.4,awik0.2,7ves0.4,awik0.2,7ves0.4,awik0.2,7ves0.4,ayd80.2,7ves0.3,534ik0.2,351g0.3,24lbw0.4,b25c0.2,2mg00.3,b73400.5,7k580.6,c8tg0.5,6h980.6,a31g0.5,7x3w0.6,asys0.5,7x3w0.6,b5xg0.5,7k580.6,ag040.5,8a2k0.6,b5xg0.5,7k580.6,b5xg0.5,7x3w0.6,asys0.5,7x3w0.6,asys0.5,7x3w0.6,b5xg0.5,7k580.6,b5xg0.5,7k580.6,b5xg0.5,7x3w0.6,asys0.5,7x3w0.6,asys0.5,7x3w0.6,asys0.5,7x3w0.6,b5xg0.5,7k580.6,b5xg0.5,7k580.6,b5xg0.5,9cyk0.6,9d440.5,7x3w0.6,asys0.5,7x3w0.6,b5xg0.5,7k580.6,9q2s0.5,8zzw0.6,b5xg0.5,7x3w0.6,asys0.5,7x3w0.6,asys0.5,7x3w0.6,asys0.5,7x3w0.6,b5xg0.5,7k580.6,b5xg0.5,8n180.6,a31g0.5,7x3w0.6,a31g0.5,9px80.6,9q2s0.5,7x3w0.6,b5xg0.5,7k580.6,b5xg0.5,7k580.6,b5xg0.5,7k580.6,b5xg0.5,7x3w0.6,asys0.5,7x3w0.6,asys0.5,7x3w0.6,b5xg0.5,7k580.6,b5xg0.5,8n180.6,a31g0.5,7x3w0.6,asys0.5,8zzw0.6,9q2s0.5,ast80.6,5eis0.5,cyl80.6,6hes0.5,c8nw0.6,6udg0.5,bvp80.6,6udg0.5,vonw0.6,4olg0.5,e1h80.6,4olg0.5,e1h80.6,4olg0.5,c8nw0.6,7x9g0.5,ast80.6,7x9g0.5,ast80.6,7x9g0.5,ast80.6,8a840.5,afuk0.6,7x9g0.5,b5rw0.6,7x9g0.5,9xbw0.7,6p5hzj.7|<-03>3"),
  ("America/Creston", "-27964,0;-25200,0;-28800,0;-25200,0|-18vrx38.1,h39xv8.2,vbus0.1|MST7"),
  ("America/Cuiaba", "-13460,0;-10800,1;-14400,0|-t85hm4.2,99k9y4.1,9a9c0.2,9io40.1,99980.2,8p65g0.1,6zuo0.2,bs2o0.1,67zw0.2,cjxg0.1,69uk0.2,cjxg0.1,4ml80.2,5mf440.1,49mk0.2,haas0.1,316k0.2,cls40.1,4ml80.2,cls40.1,66580.2,cls40.1,67zw0.2,981s40.1,6u7w0.2,biw40.1,5rbw0.2,d0lg0.1,5ed80.2,cyqs0.1,5ed80.2,dbpg0.1,64ak0.2,cyqs0.1,64ak0.2,cls40.1,5rbw0.2,dbpg0.1,51ek0.2,dbpg0.1,6h980.2,c8tg0.1,6h980.2,c8tg0.1,64ak0.2,c8tg0.1,6u7w0.2,bxpg0.1,7iak0.2,biw40.1,6u7w0.2,biw40.1,7k580.2,biw40.1,6u7w0.2,c8tg0.1,6h980.2,dbpg0.1,5ed80.2,w5hg0.1,5nmk0.2,c8tg0.1,6h980.2,dbpg0.1,5rbw0.2,bvus0.1,6h980.2,cls40.1,64ak0.2,cls40.1,6h980.2,c8tg0.1,6h980.2,c8tg0.1,6u7w0.2,c8tg0.1,64ak0.2,cls40.1,64ak0.2,cls40.1,6h980.2,c8tg0.1,6h980.2,c8tg0.1,6h980.2,c8tg0.1,6h980.2,dbpg0.1,5ed80.2,9vi5zj.2|<-04>4"),
  ("America/Curacao", "-16547,0;-16200,0;-14400,0|-u7lckd.1,rlo7qd.2|AST4"),
  ("America/Danmarkshavn", "-4480,0;-10800,0;-10800,0;-7200,1;-7200,1;0,0|-rvusjk.1,x8nx3k.4,8zrk0.2,9d1c0.3,9d1c0.2,9d1c0.3,9d1c0.2,9d1c0.3,9d1c0.2,9d1c0.3,9q000.2,9d1c0.3,9d1c0.2,9d1c0.3,9d1c0.2,9d1c0.3,9d1c0.2,9d1c0.3,9d1c0.2,9d1c0.3,9d1c0.2,9d1c0.3,9q000.2,9d1c0.3,9d1c0.2,9d1c0.3,9d1c0.2,9d1c0.3,9d1c0.2,9d1c0.3,9d1c0.2,9d1c0.3,9d1c0.2,53hk0.5|GMT0"),
  ("America/Dawson", "-33460,0;-28800,1;-32400,0;-28800,1;-28800,1;-25200,1;-28800,0;-25200,1;-25200,0|-1079suk.2,97l62k.1,a2vw0.2,asys0.1,882c0.2,bmiwc0.3,1tz000.4,2e180.2,a7n3w0.5,9q000.2,465k00.6,3e2is0.7,9cyk0.6,9d440.7,9cyk0.6,9d440.7,9px80.6,905g0.7,9px80.6,9d440.7,9cyk0.6,9d440.7,9cyk0.6,9d440.7,9cyk0.6,8a840.7,afuk0.6,8a840.7,ast80.6,7x9g0.7,ast80.6,7x9g0.7,ast80.6,8a840.7,afuk0.6,8a840.7,afuk0.6,8a840.7,ast80.6,7x9g0.7,ast80.6,7x9g0.7,ast80.6,8a840.7,afuk0.6,8a840.7,afuk0.6,8a840.7,afuk0.6,8a840.7,ast80.6,7x9g0.7,ast80.6,7x9g0.7,ast80.6,8a840.7,afuk0.6,8a840.7,afuk0.6,8a840.7,ast80.6,7x9g0.7,ast80.6,7x9g0.7,ast80.6,6udg0.7,c8nw0.6,6hes0.7,c8nw0.6,6hes0.7,c8nw0.6,6udg0.7,c8nw0.6,6hes0.7,c8nw0.6,6hes0.7,c8nw0.6,6hes0.7,c8nw0.6,6hes0.7,c8nw0.6,6hes0.7,c8nw0.6,6udg0.7,c8nw0.6,6hes0.7,c8nw0.6,6hes0.7,c8nw0.6,6hes0.7,c8nw0.6,6hes0.7,c8ic0.8|MST7"),
  ("America/Dawson_Creek", "-28856,0;-25200,1;-28800,0;-25200,1;-25200,1;-25200,0|-18vrweg.2,hw36ug.1,a2vw0.2,c5jxg0.3,1tz2s0.4,2dyg0.2,tj1g0.1,7x3w0.2,asys0.1,7x3w0.2,asys0.1,7x3w0.2,b5xg0.1,7k580.2,b5xg0.1,7x3w0.2,asys0.1,7x3w0.2,asys0.1,7x3w0.2,asys0.1,7x3w0.2,asys0.1,7x3w0.2,b5xg0.1,7x3w0.2,asys0.1,7x3w0.2,asys0.1,7x3w0.2,asys0.1,7x3w0.2,asys0.1,7x3w0.2,b5xg0.1,7k580.2,b5xg0.1,9cyk0.2,9d440.1,9cyk0.2,9d440.1,9cyk0.2,9d440.1,9px80.2,905g0.1,9px80.2,9d440.1,9cyk0.2,9d440.1,9cyk0.2,9d440.1,9cyk0.2,9d440.1,9cyk0.2,9d440.1,9px80.2,9d440.1,69uk0.5|MST7"),
  ("America/Denver", "-25196,0;-21600,1;-25200,0;-25200,0;-21600,1;-21600,1|-18y0j80.3,hxltk0.1,ast80.2,7x9g0.1,ast80.2,7x9g0.1,b5rw0.2,7kas0.1,2vmk0.2,ataw40.4,1tz5k0.5,2dvo0.2,a7n9g0.1,9px80.2,905g0.1,9px80.2,9d440.1,9cyk0.2,9d440.1,9cyk0.2,9d440.1,9cyk0.2,9d440.1,9cyk0.2,9d440.1,9px80.2,9d440.1,9cyk0.2,9d440.1,9cyk0.2,3lpg0.1,f4d80.2,64g40.1,clmk0.2,9d440.1,9px80.2,905g0.1,9px80.2,9d440.1,9cyk0.2,9d440.1,9cyk0.2,9d440.1,9cyk0.2,9d440.1,9cyk0.2,9d440.1,9px80.2,905g0.1,9px80.2,9d440.1,9cyk0.2,9d440.1,9cyk0.2,9d440.1,9cyk0.2,8a840.1,afuk0.2,8a840.1,ast80.2,7x9g0.1,ast80.2,7x9g0.1,ast80.2,8a840.1,afuk0.2,8a840.1,afuk0.2,8a840.1,ast80.2,7x9g0.1,ast80.2,7x9g0.1,ast80.2,8a840.1,afuk0.2,8a840.1,afuk0.2,8a840.1,afuk0.2,8a840.1,ast80.2,7x9g0.1,ast80.2,7x9g0.1,ast80.2,8a840.1,afuk0.2,8a840.1,afuk0.2,8a840.1,ast80.2,7x9g0.1,ast80.2,7x9g0.1,ast80.2,6udg0.1,c8nw0.2,6hes0.1,c8nw0.2,6hes0.1,c8nw0.2,6udg0.1,c8nw0.2,6hes0.1,c8nw0.2,6hes0.1,c8nw0.2,6hes0.1,c8nw0.2,6hes0.1,c8nw0.2,6hes0.1,c8nw0.2,6udg0.1,c8nw0.2,6hes0.1,c8nw0.2,6hes0.1,c8nw0.2,6hes0.1,c8nw0.2,6hes0.1,c8nw0.2,6udg0.1,c8nw0.2,6hes0.1,c8nw0.2,6hes0.1,c8nw0.2,6hes0.1,c8nw0.2,6hes0.1,c8nw0.2,6hes0.1,c8nw0.2,6udg0.1,c8nw0.2,6hes0.1,c8nw0.2,6hes0.1,c8nw0.2,6hes0.1,c8nw0.2,6hes0.1,c8nw0.2,6udg0.1,c8nw0.2,6hes0.1,c8nw0.2,6hes0.1,c8nw0.2,6hes0.1,c8nw0.2,6hes0.1,c8nw0.2,6hes0.1,c8nw0.2|MST7MDT,M3.2.0,M11.1.0"),
  ("America/Detroit", "-19931,0;-21600,0;-18000,0;-14400,1;-14400,1;-14400,1|-xx8dyd.1,5eraud.2,dyeyk0.3,1tzb40.4,2dq40.2,1c9440.5,7x3w0.2,9rlbxo.5,71s2c.2,9d440.5,9cyk0.2,2cmdg0.5,9cyk0.2,3lpg0.5,f4d80.2,9d440.5,9cyk0.2,9d440.5,9px80.2,905g0.5,9px80.2,9d440.5,9cyk0.2,9d440.5,9cyk0.2,9d440.5,9cyk0.2,9d440.5,9cyk0.2,9d440.5,9px80.2,905g0.5,9px80.2,9d440.5,9cyk0.2,9d440.5,9cyk0.2,9d440.5,9cyk0.2,8a840.5,afuk0.2,8a840.5,ast80.2,7x9g0.5,ast80.2,7x9g0.5,ast80.2,8a840.5,afuk0.2,8a840.5,afuk0.2,8a840.5,ast80.2,7x9g0.5,ast80.2,7x9g0.5,ast80.2,8a840.5,afuk0.2,8a840.5,afuk0.2,8a840.5,afuk0.2,8a840.5,ast80.2,7x9g0.5,ast80.2,7x9g0.5,ast80.2,8a840.5,afuk0.2,8a840.5,afuk0.2,8a840.5,ast80.2,7x9g0.5,ast80.2,7x9g0.5,ast80.2,6udg0.5,c8nw0.2,6hes0.5,c8nw0.2,6hes0.5,c8nw0.2,6udg0.5,c8nw0.2,6hes0.5,c8nw0.2,6hes0.5,c8nw0.2,6hes0.5,c8nw0.2,6hes0.5,c8nw0.2,6hes0.5,c8nw0.2,6udg0.5,c8nw0.2,6hes0.5,c8nw0.2,6hes0.5,c8nw0.2,6hes0.5,c8nw0.2,6hes0.5,c8nw0.2,6udg0.5,c8nw0.2,6hes0.5,c8nw0.2,6hes0.5,c8nw0.2,6hes0.5,c8nw0.2,6hes0.5,c8nw0.2,6hes0.5,c8nw0.2,6udg0.5,c8nw0.2,6hes0.5,c8nw0.2,6hes0.5,c8nw0.2,6hes0.5,c8nw0.2,6hes0.5,c8nw0.2,6udg0.5,c8nw0.2,6hes0.5,c8nw0.2,6hes0.5,c8nw0.2,6hes0.5,c8nw0.2,6hes0.5,c8nw0.2,6hes0.5,c8nw0.2|EST5EDT,M3.2.0,M11.1.0"),
  ("America/Dominica", "-14736,0;-14400,0|-uj7wl0.1|AST4"),
  ("America/Edmonton", "-27232,0;-21600,1;-25200,0;-21600,1;-21600,1|-x1yazk.2,629ink.1,a2vw0.2,8n6s0.1,29ek0.2,h6lg0.1,9px80.2,905g0.1,7x3w0.2,b5xg0.1,7k580.2,b5xg0.1,7x3w0.2,9l0g40.3,1tz5k0.4,2dvo0.2,tj1g0.1,7x3w0.2,ctzk40.1,9cyk0.2,9d440.1,9cyk0.2,9d440.1,9cyk0.2,9d440.1,9cyk0.2,9d440.1,9px80.2,905g0.1,9px80.2,9d440.1,9cyk0.2,9d440.1,9cyk0.2,9d440.1,9cyk0.2,9d440.1,9cyk0.2,9d440.1,9px80.2,905g0.1,9px80.2,9d440.1,9cyk0.2,9d440.1,9cyk0.2,9d440.1,9cyk0.2,8a840.1,afuk0.2,8a840.1,ast80.2,7x9g0.1,ast80.2,7x9g0.1,ast80.2,8a840.1,afuk0.2,8a840.1,afuk0.2,8a840.1,ast80.2,7x9g0.1,ast80.2,7x9g0.1,ast80.2,8a840.1,afuk0.2,8a840.1,afuk0.2,8a840.1,afuk0.2,8a840.1,ast80.2,7x9g0.1,ast80.2,7x9g0.1,ast80.2,8a840.1,afuk0.2,8a840.1,afuk0.2,8a840.1,ast80.2,7x9g0.1,ast80.2,7x9g0.1,ast80.2,6udg0.1,c8nw0.2,6hes0.1,c8nw0.2,6hes0.1,c8nw0.2,6udg0.1,c8nw0.2,6hes0.1,c8nw0.2,6hes0.1,c8nw0.2,6hes0.1,c8nw0.2,6hes0.1,c8nw0.2,6hes0.1,c8nw0.2,6udg0.1,c8nw0.2,6hes0.1,c8nw0.2,6hes0.1,c8nw0.2,6hes0.1,c8nw0.2,6hes0.1,c8nw0.2,6udg0.1,c8nw0.2,6hes0.1,c8nw0.2,6hes0.1,c8nw0.2,6hes0.1,c8nw0.2,6hes0.1,c8nw0.2,6hes0.1,c8nw0.2,6udg0.1,c8nw0.2,6hes0.1,c8nw0.2,6hes0.1,c8nw0.2,6hes0.1,c8nw0.2,6hes0.1,c8nw0.2,6udg0.1,c8nw0.2,6hes0.1,c8nw0.2,6hes0.1,c8nw0.2,6hes0.1,c8nw0.2,6hes0.1,c8nw0.2,6hes0.1,c8nw0.2|MST7MDT,M3.2.0,M11.1.0"),
  ("America/Eirunepe", "-16768,0;-14400,1;-18000,0;-14400,0;-18000,0|-t85f28.2,99ka68.1,9a9c0.2,9io40.1,99980.2,8p65g0.1,6zuo0.2,bs2o0.1,67zw0.2,cjxg0.1,69uk0.2,cjxg0.1,4ml80.2,5mf440.1,49mk0.2,haas0.1,316k0.2,cls40.1,4ml80.2,cls40.1,66580.2,cls40.1,67zw0.2,981s40.1,6u7w0.2,biw40.1,5rbw0.2,d0lg0.1,5ed80.2,2yy2s0.1,6h980.2,7hg2s0.3,2t2t80.2,cmiwjj.2|<-05>5"),
  ("America/El_Salvador", "-21408,0;-18000,1;-21600,0|-pkm4tc.2,ymao5c.1,7k580.2,b5xg0.1,7k580.2|CST6"),
  ("America/Fort_Nelson", "-29447,0;-25200,1;-28800,0;-25200,1;-25200,1;-25200,0|-18vrvy1.2,hw36e1.1,a2vw0.2,c5jxg0.3,1tz2s0.4,2dyg0.2,tj1g0.1,7x3w0.2,asys0.1,7x3w0.2,asys0.1,7x3w0.2,b5xg0.1,7k580.2,b5xg0.1,7x3w0.2,asys0.1,7x3w0.2,asys0.1,7x3w0.2,asys0.1,7x3w0.2,asys0.1,7x3w0.2,b5xg0.1,7x3w0.2,asys0.1,7x3w0.2,asys0.1,7x3w0.2,asys0.1,7x3w0.2,asys0.1,7x3w0.2,b5xg0.1,7k580.2,b5xg0.1,9cyk0.2,9d440.1,9cyk0.2,9d440.1,9cyk0.2,9d440.1,9px80.2,905g0.1,9px80.2,9d440.1,9cyk0.2,9d440.1,9cyk0.2,9d440.1,9cyk0.2,9d440.1,9cyk0.2,9d440.1,9px80.2,9d440.1,9cyk0.2,9d440.1,9cyk0.2,9d440.1,9cyk0.2,9d440.1,9cyk0.2,9d440.1,9px80.2,905g0.1,9px80.2,9d440.1,9cyk0.2,9d440.1,9cyk0.2,9d440.1,9cyk0.2,9d440.1,9cyk0.2,9d440.1,9px80.2,905g0.1,9px80.2,9d440.1,9cyk0.2,9d440.1,9cyk0.2,9d440.1,9cyk0.2,8a840.1,afuk0.2,8a840.1,ast80.2,7x9g0.1,ast80.2,7x9g0.1,ast80.2,8a840.1,afuk0.2,8a840.1,afuk0.2,8a840.1,ast80.2,7x9g0.1,ast80.2,7x9g0.1,ast80.2,8a840.1,afuk0.2,8a840.1,afuk0.2,8a840.1,afuk0.2,8a840.1,ast80.2,7x9g0.1,ast80.2,7x9g0.1,ast80.2,8a840.1,afuk0.2,8a840.1,afuk0.2,8a840.1,ast80.2,7x9g0.1,ast80.2,7x9g0.1,ast80.2,6udg0.1,c8nw0.2,6hes0.1,c8nw0.2,6hes0.1,c8nw0.2,6udg0.1,c8nw0.2,6hes0.1,c8nw0.2,6hes0.1,c8nw0.2,6hes0.1,c8nw0.2,6hes0.1,c8nw0.2,6hes0.5|MST7"),
  ("America/Fortaleza", "-9240,0;-7200,1;-10800,0|-t85kvc.2,99kafc.1,9a9c0.2,9io40.1,99980.2,8p65g0.1,6zuo0.2,bs2o0.1,67zw0.2,cjxg0.1,69uk0.2,cjxg0.1,4ml80.2,5mf440.1,49mk0.2,haas0.1,316k0.2,cls40.1,4ml80.2,cls40.1,66580.2,cls40.1,67zw0.2,981s40.1,6u7w0.2,biw40.1,5rbw0.2,d0lg0.1,5ed80.2,cyqs0.1,5ed80.2,dbpg0.1,64ak0.2,514g40.1,7k580.2,biw40.1,puk0.2,id6s0.1,6h980.2,iqwe3j.2|<-03>3"),
  ("America/Glace_Bay", "-14388,0;-10800,1;-14400,0;-10800,1;-10800,1|-z94kwc.2,89fk8c.1,a2vw0.2,c5jxg0.3,1tzdw0.4,2dnc0.2,3y8g40.1,7x3w0.2,9pa5g0.1,9cyk0.2,9d440.1,9cyk0.2,9d440.1,9cyk0.2,9d440.1,9cyk0.2,9d440.1,9px80.2,905g0.1,9px80.2,9d440.1,9cyk0.2,9d440.1,9cyk0.2,9d440.1,9cyk0.2,9d440.1,9cyk0.2,9d440.1,9px80.2,905g0.1,9px80.2,9d440.1,9cyk0.2,9d440.1,9cyk0.2,9d440.1,9cyk0.2,8a840.1,afuk0.2,8a840.1,ast80.2,7x9g0.1,ast80.2,7x9g0.1,ast80.2,8a840.1,afuk0.2,8a840.1,afuk0.2,8a840.1,ast80.2,7x9g0.1,ast80.2,7x9g0.1,ast80.2,8a840.1,afuk0.2,8a840.1,afuk0.2,8a840.1,afuk0.2,8a840.1,ast80.2,7x9g0.1,ast80.2,7x9g0.1,ast80.2,8a840.1,afuk0.2,8a840.1,afuk0.2,8a840.1,ast80.2,7x9g0.1,ast80.2,7x9g0.1,ast80.2,6udg0.1,c8nw0.2,6hes0.1,c8nw0.2,6hes0.1,c8nw0.2,6udg0.1,c8nw0.2,6hes0.1,c8nw0.2,6hes0.1,c8nw0.2,6hes0.1,c8nw0.2,6hes0.1,c8nw0.2,6hes0.1,c8nw0.2,6udg0.1,c8nw0.2,6hes0.1,c8nw0.2,6hes0.1,c8nw0.2,6hes0.1,c8nw0.2,6hes0.1,c8nw0.2,6udg0.1,c8nw0.2,6hes0.1,c8nw0.2,6hes0.1,c8nw0.2,6hes0.1,c8nw0.2,6hes0.1,c8nw0.2,6hes0.1,c8nw0.2,6udg0.1,c8nw0.2,6hes0.1,c8nw0.2,6hes0.1,c8nw0.2,6hes0.1,c8nw0.2,6hes0.1,c8nw0.2,6udg0.1,c8nw0.2,6hes0.1,c8nw0.2,6hes0.1,c8nw0.2,6hes0.1,c8nw0.2,6hes0.1,c8nw0.2,6hes0.1,c8nw0.2|AST4ADT,M3.2.0,M11.1.0"),
  ("America/Goose_Bay", "-14500,0;-12652,0;-9052,1;-12600,0;-9000,1;-9000,1;-9000,1;-10800,1;-14400,0;-7200,1;-10800,1|-18vs7h8.1,hw35go.2,a2vw0.1,8kjbw0.3,kzjyk.4,7k580.3,b5xg0.4,7k580.3,b5xg0.4,7k580.3,biw40.4,776k0.3,biw40.4,7k580.3,b5xg0.4,7k580.3,b5xg0.6,1pb260.5,2dly0.3,biw40.4,7k580.3,b5xg0.4,7k580.3,b5xg0.4,7k580.3,b5xg0.4,7k580.3,biw40.4,7k580.3,ag040.4,7x3w0.3,asys0.4,7x3w0.3,asys0.4,7x3w0.3,asys0.4,7x3w0.3,asys0.4,7x3w0.3,b5xg0.4,7x3w0.3,asys0.4,7x3w0.3,asys0.4,7x3w0.3,asys0.4,7x3w0.3,asys0.4,9px80.3,9d440.4,9cyk0.3,9d440.4,9cyk0.3,9d440.4,9cyk0.3,9d440.4,9cyk0.3,9d440.4,9px80.3,6y2s0.8,22420.7,9px80.8,9d440.7,9cyk0.8,9d440.7,9cyk0.8,9d440.7,9cyk0.8,9d440.7,9cyk0.8,9d440.7,9px80.8,9d440.7,9cyk0.8,9d440.7,9cyk0.8,9d440.7,9cyk0.8,9d440.7,9cyk0.8,9d440.7,9px80.8,905g0.7,9px80.8,9d440.7,9cyk0.8,9d440.7,9cyk0.8,9d440.7,9cyk0.8,9d440.7,9cyk0.8,9d440.7,9px80.8,905g0.7,9px80.8,9d440.7,9cyk0.8,9d440.7,9cyk0.8,9d440.7,9cyk0.8,8a2lo.7,afuk0.8,8a840.9,asqg0.8,7xc80.7,ast80.8,7x9g0.7,ast80.8,8a840.7,afuk0.8,8a840.7,afuk0.8,8a840.7,ast80.8,7x9g0.7,ast80.8,7x9g0.7,ast80.8,8a840.7,afuk0.8,8a840.7,afuk0.8,8a840.7,afuk0.8,8a840.7,ast80.8,7x9g0.7,ast80.8,7x9g0.7,ast80.8,8a840.7,afuk0.8,8a840.7,afuk0.8,8a840.7,ast80.8,7x9g0.7,ast80.8,7x9g0.7,ast80.8,6udg0.7,c8nw0.8,6hes0.7,c8nw0.8,6hes0.7,c8nw0.8,6udg0.7,c8nw0.8,6hes0.7,c8tec.8,6hes0.7,c8nw0.8,6hes0.7,c8nw0.8,6hes0.7,c8nw0.8,6hes0.7,c8nw0.8,6udg0.7,c8nw0.8,6hes0.7,c8nw0.8,6hes0.7,c8nw0.8,6hes0.7,c8nw0.8,6hes0.7,c8nw0.8,6udg0.7,c8nw0.8,6hes0.7,c8nw0.8,6hes0.7,c8nw0.8,6hes0.7,c8nw0.8,6hes0.7,c8nw0.8,6hes0.7,c8nw0.8,6udg0.7,c8nw0.8,6hes0.7,c8nw0.8,6hes0.7,c8nw0.8,6hes0.7,c8nw0.8,6hes0.7,c8nw0.8,6udg0.7,c8nw0.8,6hes0.7,c8nw0.8,6hes0.7,c8nw0.8,6hes0.7,c8nw0.8,6hes0.7,c8nw0.8,6hes0.7,c8nw0.8|AST4ADT,M3.2.0,M11.1.0"),
  ("America/Grand_Turk", "-17072,0;-18430,0;-18000,0;-14400,1;-14400,0;-18000,0|-15r0w5s.1,biv7pq.2,z3brw2.3,9cyk0.2,9d440.3,9cyk0.2,9d440.3,9cyk0.2,9d440.3,9px80.2,905g0.3,9px80.2,9d440.3,9cyk0.2,9d440.3,9cyk0.2,9d440.3,9cyk0.2,8a840.3,afuk0.2,8a840.3,ast80.2,7x9g0.3,ast80.2,7x9g0.3,ast80.2,8a840.3,afuk0.2,8a840.3,afuk0.2,8a840.3,ast80.2,7x9g0.3,ast80.2,7x9g0.3,ast80.2,8a840.3,afuk0.2,8a840.3,afuk0.2,8a840.3,afuk0.2,8a840.3,ast80.2,7x9g0.3,ast80.2,7x9g0.3,ast80.2,8a840.3,afuk0.2,8a840.3,afuk0.2,8a840.3,ast80.2,7x9g0.3,ast80.2,7x9g0.3,ast80.2,6udg0.3,c8nw0.2,6hes0.3,c8nw0.2,6hes0.3,c8nw0.2,6udg0.3,c8nw0.2,6hes0.3,c8nw0.2,6hes0.3,c8nw0.2,6hes0.3,c8nw0.2,6hes0.3,c8nw0.2,6hes0.4,1kj6o0.3,c8nw0.2,6hes0.3,c8nw0.2,6hes0.3,c8nw0.2,6udg0.3,c8nw0.2,6hes0.3,c8nw0.2,6hes0.3,c8nw0.2,6hes0.3,c8nw0.2,6hes0.3,c8nw0.2,6hes0.3,c8nw0.2,6udg0.3,c8nw0.2,6hes0.3,c8nw0.2,6hes0.3,c8nw0.2,6hes0.3,c8nw0.2,6hes0.3,c8nw0.2,6udg0.3,c8nw0.2,6hes0.3,c8nw0.2,6hes0.3,c8nw0.2,6hes0.3,c8nw0.2,6hes0.3,c8nw0.2,6hes0.3,c8nw0.2|EST5EDT,M3.2.0,M11.1.0"),
  ("America/Grenada", "-14820,0;-14400,0|-uj7wkc.1|AST4"),
  ("America/Guadeloupe", "-14768,0;-14400,0|-ukehxs.1|AST4"),
  ("America/Guatemala", "-21724,0;-18000,1;-21600,0|-qqqskk.2,ss0akk.1,4ofw0.2,4tidg0.1,6djw0.2,3wwas0.1,8n180.2,7n5ms0.1,7x3w0.2|CST6"),
  ("America/Guayaquil", "-19160,0;-18840,0;-14400,1;-18000,0|-15r0ujs.1,le9mf4.3,wb620o.2,3jp80.3,nglhvj.3|<-05>5"),
  ("America/Guyana", "-13959,0;-14400,0;-13500,0;-10800,0;-14400,0|-uhmik9.1,1va8c9.2,vj6nb0.3,8p0jd0.1,nwp4jj.1|<-04>4"),
  ("America/Halifax", "-15264,0;-10800,1;-14400,0;-10800,1;-10800,1|-z94k80.2,777go0.1,9et80.2,st9o0.1,a2vw0.2,ssyk0.1,5rbw0.2,cv1g0.1,69uk0.2,c6ys0.1,6kyk0.2,ci2s0.1,67zw0.2,ci2s0.1,6w2k0.2,bu040.1,7lzw0.2,bu040.1,66580.2,bu040.1,7lzw0.2,bu040.1,64ak0.2,cls40.1,5v180.2,cv1g0.1,6j3w0.2,c6ys0.1,79180.2,b42s0.1,7lzw0.2,b42s0.1,7yyk0.2,bu040.1,64ak0.2,dbpg0.1,66580.2,cls40.1,5ed80.2,bu040.1,7lzw0.2,b42s0.1,7lzw0.2,cjxg0.1,66580.2,bh1g0.1,7lzw0.2,b42s0.1,7lzw0.2,6uj00.3,1tzdw0.4,2dnc0.2,asys0.1,7x3w0.2,asys0.1,7x3w0.2,asys0.1,7x3w0.2,asys0.1,7x3w0.2,tw040.1,7x3w0.2,asys0.1,7x3w0.2,asys0.1,7x3w0.2,asys0.1,7x3w0.2,tw040.1,7x3w0.2,asys0.1,7x3w0.2,asys0.1,7x3w0.2,asys0.1,7x3w0.2,1cm2s0.1,9cyk0.2,9d440.1,9cyk0.2,9d440.1,9cyk0.2,9d440.1,9px80.2,905g0.1,9px80.2,9d440.1,9cyk0.2,9d440.1,9cyk0.2,9d440.1,9cyk0.2,9d440.1,9cyk0.2,9d440.1,9px80.2,9d440.1,9cyk0.2,9d440.1,9cyk0.2,9d440.1,9cyk0.2,9d440.1,9cyk0.2,9d440.1,9px80.2,905g0.1,9px80.2,9d440.1,9cyk0.2,9d440.1,9cyk0.2,9d440.1,9cyk0.2,9d440.1,9cyk0.2,9d440.1,9px80.2,905g0.1,9px80.2,9d440.1,9cyk0.2,9d440.1,9cyk0.2,9d440.1,9cyk0.2,8a840.1,afuk0.2,8a840.1,ast80.2,7x9g0.1,ast80.2,7x9g0.1,ast80.2,8a840.1,afuk0.2,8a840.1,afuk0.2,8a840.1,ast80.2,7x9g0.1,ast80.2,7x9g0.1,ast80.2,8a840.1,afuk0.2,8a840.1,afuk0.2,8a840.1,afuk0.2,8a840.1,ast80.2,7x9g0.1,ast80.2,7x9g0.1,ast80.2,8a840.1,afuk0.2,8a840.1,afuk0.2,8a840.1,ast80.2,7x9g0.1,ast80.2,7x9g0.1,ast80.2,6udg0.1,c8nw0.2,6hes0.1,c8nw0.2,6hes0.1,c8nw0.2,6udg0.1,c8nw0.2,6hes0.1,c8nw0.2,6hes0.1,c8nw0.2,6hes0.1,c8nw0.2,6hes0.1,c8nw0.2,6hes0.1,c8nw0.2,6udg0.1,c8nw0.2,6hes0.1,c8nw0.2,6hes0.1,c8nw0.2,6hes0.1,c8nw0.2,6hes0.1,c8nw0.2,6udg0.1,c8nw0.2,6hes0.1,c8nw0.2,6hes0.1,c8nw0.2,6hes0.1,c8nw0.2,6hes0.1,c8nw0.2,6hes0.1,c8nw0.2,6udg0.1,c8nw0.2,6hes0.1,c8nw0.2,6hes0.1,c8nw0.2,6hes0.1,c8nw0.2,6hes0.1,c8nw0.2,6udg0.1,c8nw0.2,6hes0.1,c8nw0.2,6hes0.1,c8nw0.2,6hes0.1,c8nw0.2,6hes0.1,c8nw0.2,6hes0.1,c8nw0.2|AST4ADT,M3.2.0,M11.1.0"),
  ("America/Havana", "-19768,0;-19776,0;-14400,1;-18000,0;-18000,0;-14400,1|-15r0u2w.1,ijto08.3,1icfyo.2,69uk0.3,62s040.2,4ofw0.3,e1ms0.2,51ek0.3,e1ms0.2,4ofw0.3,1fhs40.2,4ofw0.3,e1ms0.2,4ofw0.3,9s9k40.2,67zw0.3,cedg0.2,6h980.3,9o840.2,7yyk0.3,b5xg0.2,7k580.3,bvus0.2,9cyk0.3,9d440.2,9cyk0.3,9d440.2,9px80.3,9d440.2,8a2k0.3,ag040.2,8bx80.3,ae5g0.2,8drw0.3,acas0.2,9cyk0.3,9d440.2,9px80.3,905g0.2,9px80.3,9q2s0.2,7x3w0.3,8a840.2,ast80.3,7x9g0.2,ast80.3,asys0.2,7x3w0.3,asys0.2,7x3w0.3,asys0.2,7x3w0.3,asys0.2,8a2k0.3,ag040.2,8a2k0.3,7x9g0.2,ast80.3,7x9g0.2,ast80.3,8a840.2,afuk0.3,8a840.2,afuk0.3,905g0.2,a2vw0.3,905g0.2,9q000.4,902o0.2,9q000.4,902o0.2,9q000.4,902o0.2,9q000.4,902o0.2,9q000.4,9d1c0.2,9d1c0.4,9d1c0.2,9q000.4,8n400.5,asw00.4,7x6o0.5,b5uo0.4,7x6o0.5,asw00.4,7x6o0.5,asw00.4,8a5c0.5,afxc0.4,8a5c0.5,afxc0.4,7x6o0.5,1cm000.4,6uao0.5,bvs00.4,779c0.5,bitc0.4,6uao0.5,bvs00.4,779c0.5,bvs00.4,779c0.5,c8qo0.4,779c0.5,b5uo0.4,6hc00.5,c8qo0.4,6hc00.5,c8qo0.4,6hc00.5,c8qo0.4,6uao0.5,c8qo0.4,6hc00.5,c8qo0.4,6hc00.5,c8qo0.4,6hc00.5,c8qo0.4,6hc00.5,c8qo0.4,6uao0.5,c8qo0.4,6hc00.5,c8qo0.4,6hc00.5,c8qo0.4,6hc00.5,c8qo0.4,6hc00.5,c8qo0.4,6hc00.5,c8qo0.4,6uao0.5,c8qo0.4,6hc00.5,c8qo0.4,6hc00.5,c8qo0.4,6hc00.5,c8qo0.4,6hc00.5,c8qo0.4,6uao0.5,c8qo0.4,6hc00.5,c8qo0.4,6hc00.5,c8qo0.4,6hc00.5,c8qo0.4,6hc00.5,c8qo0.4,6hc00.5,c8qo0.4|CST5CDT,M3.2.0/0,M11.1.0/1"),
  ("America/Hermosillo", "-26632,0;-25200,0;-21600,0;-21600,1;-25200,0|-p1u4k0.1,2u5s00.2,1si580.4,8jhg0.3,7x3w0.4,9eys0.2,591h80.4,s5qoc0.3,afuk0.4,8a840.3,afuk0.4,8a840.3,afuk0.4|MST7"),
  ("America/Indiana/Indianapolis", "-20678,0;-18000,1;-21600,0;-21600,0;-18000,1;-18000,1;-18000,0;-14400,1|-18y0m00.3,hxltk0.1,ast80.2,7x9g0.1,ast80.2,baw840.1,51ek0.2,6w840.4,1tz8c0.5,2dsw0.2,asys0.1,7x3w0.2,asys0.1,7x3w0.2,asys0.1,7x3w0.2,asys0.1,7x3w0.2,b5xg0.1,7k580.2,b5xg0.1,7x3w0.2,asys0.1,7x3w0.2,asys0.1,7x3w0.2,asys0.1,7x3w0.2,asys0.6,19q7w0.2,asys0.6,5qonw0.7,9cyk0.6,9d440.7,9cyk0.6,ihslg0.7,ast80.6,6udg0.7,c8nw0.6,6hes0.7,c8nw0.6,6hes0.7,c8nw0.6,6udg0.7,c8nw0.6,6hes0.7,c8nw0.6,6hes0.7,c8nw0.6,6hes0.7,c8nw0.6,6hes0.7,c8nw0.6,6hes0.7,c8nw0.6,6udg0.7,c8nw0.6,6hes0.7,c8nw0.6,6hes0.7,c8nw0.6,6hes0.7,c8nw0.6,6hes0.7,c8nw0.6,6udg0.7,c8nw0.6,6hes0.7,c8nw0.6,6hes0.7,c8nw0.6,6hes0.7,c8nw0.6,6hes0.7,c8nw0.6,6hes0.7,c8nw0.6,6udg0.7,c8nw0.6,6hes0.7,c8nw0.6,6hes0.7,c8nw0.6,6hes0.7,c8nw0.6,6hes0.7,c8nw0.6,6udg0.7,c8nw0.6,6hes0.7,c8nw0.6,6hes0.7,c8nw0.6,6hes0.7,c8nw0.6,6hes0.7,c8nw0.6,6hes0.7,c8nw0.6|EST5EDT,M3.2.0,M11.1.0"),
  ("America/Indiana/Knox", "-20790,0;-18000,1;-21600,0;-18000,1;-18000,1;-21600,0;-18000,0;-21600,0|-18y0m00.5,hxltk0.1,ast80.2,7x9g0.1,ast80.2,bmtus0.3,1tz8c0.4,2dsw0.2,tj1g0.1,7x3w0.2,asys0.1,7x3w0.2,asys0.1,7x3w0.2,b5xg0.1,7k580.2,b5xg0.1,7x3w0.2,asys0.1,7x3w0.2,asys0.1,7x3w0.2,asys0.1,7x3w0.2,asys0.1,9px80.2,9d440.1,9cyk0.2,9d440.1,7x3w0.2,asys0.1,7x3w0.2,asys0.1,9cyk0.2,9d440.1,9px80.2,9d440.1,9cyk0.2,9d440.6,s3180.2,1twas0.1,9cyk0.2,9d440.1,9cyk0.2,9d440.1,9cyk0.2,9d440.1,9cyk0.2,9d440.1,9px80.2,9d440.1,9cyk0.2,9d440.1,9cyk0.2,3lpg0.1,f4d80.2,64g40.1,clmk0.2,9d440.1,9px80.2,905g0.1,9px80.2,9d440.1,9cyk0.2,9d440.1,9cyk0.2,9d440.1,9cyk0.2,9d440.1,9cyk0.2,9d440.1,9px80.2,905g0.1,9px80.2,9d440.1,9cyk0.2,9d440.1,9cyk0.2,9d440.1,9cyk0.2,8a840.1,afuk0.2,8a840.1,ast80.2,7x9g0.1,ast80.2,7x9g0.1,ast80.2,8a840.1,afuk0.6,7j5400.1,asw00.2,6udg0.1,c8nw0.2,6hes0.1,c8nw0.2,6hes0.1,c8nw0.2,6udg0.1,c8nw0.2,6hes0.1,c8nw0.2,6hes0.1,c8nw0.2,6hes0.1,c8nw0.2,6hes0.1,c8nw0.2,6hes0.1,c8nw0.2,6udg0.1,c8nw0.2,6hes0.1,c8nw0.2,6hes0.1,c8nw0.2,6hes0.1,c8nw0.2,6hes0.1,c8nw0.2,6udg0.1,c8nw0.2,6hes0.1,c8nw0.2,6hes0.1,c8nw0.2,6hes0.1,c8nw0.2,6hes0.1,c8nw0.2,6hes0.1,c8nw0.2,6udg0.1,c8nw0.2,6hes0.1,c8nw0.2,6hes0.1,c8nw0.2,6hes0.1,c8nw0.2,6hes0.1,c8nw0.2,6udg0.1,c8nw0.2,6hes0.1,c8nw0.2,6hes0.1,c8nw0.2,6hes0.1,c8nw0.2,6hes0.1,c8nw0.2,6hes0.1,c8nw0.2|CST6CDT,M3.2.0,M11.1.0"),
  ("America/Indiana/Marengo", "-20723,0;-18000,1;-21600,0;-18000,1;-18000,1;-21600,0;-18000,0;-14400,1|-18y0m00.5,hxltk0.1,ast80.2,7x9g0.1,ast80.2,bmtus0.3,1tz8c0.4,2dsw0.2,2wsas0.1,7x3w0.2,1c9440.1,7x3w0.2,asys0.1,7x3w0.2,b5xg0.1,7x3w0.2,asys0.1,7x3w0.2,asys0.1,7x3w0.2,asys0.1,7x3w0.2,asys0.1,7x3w0.2,b5xg0.6,465h80.7,9cyk0.6,9d440.7,9cyk0.6,9d440.7,9px80.6,9d440.7,9cyk0.6,9d440.7,9cyk0.6,3lpg0.1,f4g00.6,64dc0.7,clmk0.6,fvt9g0.7,ast80.6,6udg0.7,c8nw0.6,6hes0.7,c8nw0.6,6hes0.7,c8nw0.6,6udg0.7,c8nw0.6,6hes0.7,c8nw0.6,6hes0.7,c8nw0.6,6hes0.7,c8nw0.6,6hes0.7,c8nw0.6,6hes0.7,c8nw0.6,6udg0.7,c8nw0.6,6hes0.7,c8nw0.6,6hes0.7,c8nw0.6,6hes0.7,c8nw0.6,6hes0.7,c8nw0.6,6udg0.7,c8nw0.6,6hes0.7,c8nw0.6,6hes0.7,c8nw0.6,6hes0.7,c8nw0.6,6hes0.7,c8nw0.6,6hes0.7,c8nw0.6,6udg0.7,c8nw0.6,6hes0.7,c8nw0.6,6hes0.7,c8nw0.6,6hes0.7,c8nw0.6,6hes0.7,c8nw0.6,6udg0.7,c8nw0.6,6hes0.7,c8nw0.6,6hes0.7,c8nw0.6,6hes0.7,c8nw0.6,6hes0.7,c8nw0.6,6hes0.7,c8nw0.6|EST5EDT,M3.2.0,M11.1.0"),
  ("America/Indiana/Petersburg", "-20947,0;-18000,1;-21600,0;-18000,1;-18000,1;-21600,0;-18000,0;-14400,1|-18y0m00.5,hxltk0.1,ast80.2,7x9g0.1,ast80.2,bmtus0.3,1tz8c0.4,2dsw0.2,501ek0.1,7kas0.2,b5xg0.1,7x3w0.2,asys0.1,7x3w0.2,asys0.1,7x3w0.2,asys0.1,7x3w0.2,asys0.1,7x3w0.2,b5xg0.1,9cyk0.2,9d440.1,9cyk0.2,9d440.1,9cyk0.2,9d440.1,9cyk0.2,9d440.6,sfzw0.2,9d440.1,9cyk0.2,9d440.1,9cyk0.2,9d440.1,9cyk0.2,9d440.1,9cyk0.2,9d440.1,9px80.2,9d440.1,9cyk0.2,9d440.1,9cyk0.2,3lpg0.1,f4d80.2,64g40.1,clmk0.2,9d440.1,9px80.2,905g0.1,9px80.6,eu02o0.1,asw00.2,6udg0.1,c8nw0.6,6hc00.7,c8nw0.6,6hes0.7,c8nw0.6,6udg0.7,c8nw0.6,6hes0.7,c8nw0.6,6hes0.7,c8nw0.6,6hes0.7,c8nw0.6,6hes0.7,c8nw0.6,6hes0.7,c8nw0.6,6udg0.7,c8nw0.6,6hes0.7,c8nw0.6,6hes0.7,c8nw0.6,6hes0.7,c8nw0.6,6hes0.7,c8nw0.6,6udg0.7,c8nw0.6,6hes0.7,c8nw0.6,6hes0.7,c8nw0.6,6hes0.7,c8nw0.6,6hes0.7,c8nw0.6,6hes0.7,c8nw0.6,6udg0.7,c8nw0.6,6hes0.7,c8nw0.6,6hes0.7,c8nw0.6,6hes0.7,c8nw0.6,6hes0.7,c8nw0.6,6udg0.7,c8nw0.6,6hes0.7,c8nw0.6,6hes0.7,c8nw0.6,6hes0.7,c8nw0.6,6hes0.7,c8nw0.6,6hes0.7,c8nw0.6|EST5EDT,M3.2.0,M11.1.0"),
  ("America/Indiana/Tell_City", "-20823,0;-18000,1;-21600,0;-18000,1;-18000,1;-21600,0;-18000,0;-14400,1;-18000,1;-21600,0|-18y0m00.5,hxltk0.1,ast80.2,7x9g0.1,ast80.2,bmtus0.3,1tz8c0.4,2dsw0.2,501ek0.1,7kas0.2,b5xg0.1,7x3w0.2,asys0.1,7x3w0.2,asys0.1,7x3w0.2,asys0.1,7x3w0.2,asys0.1,7x3w0.2,b5xg0.1,9cyk0.2,9d440.1,9cyk0.2,9d440.1,9cyk0.2,9d440.6,1tw580.2,9d440.1,9cyk0.2,9d440.7,9cvs0.6,9d440.7,9cyk0.6,ihslg0.1,asw00.2,6udg0.1,c8nw0.2,6hes0.1,c8nw0.2,6hes0.1,c8nw0.2,6udg0.1,c8nw0.2,6hes0.1,c8nw0.2,6hes0.1,c8nw0.2,6hes0.1,c8nw0.2,6hes0.1,c8nw0.2,6hes0.1,c8nw0.2,6udg0.1,c8nw0.2,6hes0.1,c8nw0.2,6hes0.1,c8nw0.2,6hes0.1,c8nw0.2,6hes0.1,c8nw0.2,6udg0.1,c8nw0.2,6hes0.1,c8nw0.2,6hes0.1,c8nw0.2,6hes0.1,c8nw0.2,6hes0.1,c8nw0.2,6hes0.1,c8nw0.2,6udg0.1,c8nw0.2,6hes0.1,c8nw0.2,6hes0.1,c8nw0.2,6hes0.1,c8nw0.2,6hes0.1,c8nw0.2,6udg0.1,c8nw0.2,6hes0.1,c8nw0.2,6hes0.1,c8nw0.2,6hes0.1,c8nw0.2,6hes0.1,c8nw0.2,6hes0.1,c8nw0.2|CST6CDT,M3.2.0,M11.1.0"),
  ("America/Indiana/Vevay", "-20416,0;-18000,1;-21600,0;-18000,1;-18000,1;-21600,0;-18000,0;-14400,1|-18y0m00.5,hxltk0.1,ast80.2,7x9g0.1,ast80.2,bmtus0.3,1tz8c0.4,2dsw0.2,4gyis0.6,7txx80.7,9cyk0.6,9d440.7,9cyk0.6,9d440.7,9px80.6,9d440.7,9cyk0.6,hfzhg0.7,ast80.6,6udg0.7,c8nw0.6,6hes0.7,c8nw0.6,6hes0.7,c8nw0.6,6udg0.7,c8nw0.6,6hes0.7,c8nw0.6,6hes0.7,c8nw0.6,6hes0.7,c8nw0.6,6hes0.7,c8nw0.6,6hes0.7,c8nw0.6,6udg0.7,c8nw0.6,6hes0.7,c8nw0.6,6hes0.7,c8nw0.6,6hes0.7,c8nw0.6,6hes0.7,c8nw0.6,6udg0.7,c8nw0.6,6hes0.7,c8nw0.6,6hes0.7,c8nw0.6,6hes0.7,c8nw0.6,6hes0.7,c8nw0.6,6hes0.7,c8nw0.6,6udg0.7,c8nw0.6,6hes0.7,c8nw0.6,6hes0.7,c8nw0.6,6hes0.7,c8nw0.6,6hes0.7,c8nw0.6,6udg0.7,c8nw0.6,6hes0.7,c8nw0.6,6hes0.7,c8nw0.6,6hes0.7,c8nw0.6,6hes0.7,c8nw0.6,6hes0.7,c8nw0.6|EST5EDT,M3.2.0,M11.1.0"),
  ("America/Indiana/Vincennes", "-21007,0;-18000,1;-21600,0;-18000,1;-18000,1;-21600,0;-18000,0;-14400,1|-18y0m00.5,hxltk0.1,ast80.2,7x9g0.1,ast80.2,bmtus0.3,1tz8c0.4,2dsw0.2,asys0.1,7x3w0.2,3fidg0.1,7x3w0.2,asys0.1,7x3w0.2,b5rw0.1,7kas0.2,b5xg0.1,7x3w0.2,asys0.1,7x3w0.2,asys0.1,7x3w0.2,asys0.1,7x3w0.2,asys0.1,9px80.2,9d440.1,7k580.2,b5xg0.1,9cyk0.2,9d440.1,9cyk0.2,9d440.6,2lz980.7,9cyk0.6,9d440.7,9cyk0.6,ihslg0.1,asw00.2,6udg0.1,c8nw0.6,6hc00.7,c8nw0.6,6hes0.7,c8nw0.6,6udg0.7,c8nw0.6,6hes0.7,c8nw0.6,6hes0.7,c8nw0.6,6hes0.7,c8nw0.6,6hes0.7,c8nw0.6,6hes0.7,c8nw0.6,6udg0.7,c8nw0.6,6hes0.7,c8nw0.6,6hes0.7,c8nw0.6,6hes0.7,c8nw0.6,6hes0.7,c8nw0.6,6udg0.7,c8nw0.6,6hes0.7,c8nw0.6,6hes0.7,c8nw0.6,6hes0.7,c8nw0.6,6hes0.7,c8nw0.6,6hes0.7,c8nw0.6,6udg0.7,c8nw0.6,6hes0.7,c8nw0.6,6hes0.7,c8nw0.6,6hes0.7,c8nw0.6,6hes0.7,c8nw0.6,6udg0.7,c8nw0.6,6hes0.7,c8nw0.6,6hes0.7,c8nw0.6,6hes0.7,c8nw0.6,6hes0.7,c8nw0.6,6hes0.7,c8nw0.6|EST5EDT,M3.2.0,M11.1.0"),
  ("America/Indiana/Winamac", "-20785,0;-18000,1;-21600,0;-18000,1;-18000,1;-21600,0;-18000,0;-14400,1|-18y0m00.5,hxltk0.1,ast80.2,7x9g0.1,ast80.2,bmtus0.3,1tz8c0.4,2dsw0.2,asys0.1,7x3w0.2,asys0.1,7x3w0.2,asys0.1,7x3w0.2,asys0.1,7x3w0.2,b5xg0.1,7k580.2,b5xg0.1,7x3w0.2,asys0.1,7x3w0.2,asys0.1,7x3w0.2,asys0.1,7x3w0.2,asys0.1,9px80.2,9d440.1,9cyk0.2,9d440.1,7x3w0.2,asys0.1,7x3w0.2,asys0.1,7x3w0.2,asys0.1,7x3w0.2,b5xg0.6,465h80.7,9cyk0.6,9d440.7,9cyk0.6,ihslg0.1,asw00.2,6udg0.7,c8l40.6,6hes0.7,c8nw0.6,6hes0.7,c8nw0.6,6udg0.7,c8nw0.6,6hes0.7,c8nw0.6,6hes0.7,c8nw0.6,6hes0.7,c8nw0.6,6hes0.7,c8nw0.6,6hes0.7,c8nw0.6,6udg0.7,c8nw0.6,6hes0.7,c8nw0.6,6hes0.7,c8nw0.6,6hes0.7,c8nw0.6,6hes0.7,c8nw0.6,6udg0.7,c8nw0.6,6hes0.7,c8nw0.6,6hes0.7,c8nw0.6,6hes0.7,c8nw0.6,6hes0.7,c8nw0.6,6hes0.7,c8nw0.6,6udg0.7,c8nw0.6,6hes0.7,c8nw0.6,6hes0.7,c8nw0.6,6hes0.7,c8nw0.6,6hes0.7,c8nw0.6,6udg0.7,c8nw0.6,6hes0.7,c8nw0.6,6hes0.7,c8nw0.6,6hes0.7,c8nw0.6,6hes0.7,c8nw0.6,6hes0.7,c8nw0.6|EST5EDT,M3.2.0,M11.1.0"),
  ("America/Inuvik", "0,0;-25200,1;-28800,0;-25200,0;-21600,1|-8ve5c0.2,a34zs0.1,9cyk0.2,9d440.1,9cyk0.2,9d440.1,9cyk0.2,9d440.1,9cyk0.2,9d440.1,9px80.2,905g0.1,9px80.2,9d440.1,9cyk0.2,9d440.4,9cvs0.3,9d440.4,9cyk0.3,9d440.4,9cyk0.3,9d440.4,9px80.3,905g0.4,9px80.3,9d440.4,9cyk0.3,9d440.4,9cyk0.3,9d440.4,9cyk0.3,8a840.4,afuk0.3,8a840.4,ast80.3,7x9g0.4,ast80.3,7x9g0.4,ast80.3,8a840.4,afuk0.3,8a840.4,afuk0.3,8a840.4,ast80.3,7x9g0.4,ast80.3,7x9g0.4,ast80.3,8a840.4,afuk0.3,8a840.4,afuk0.3,8a840.4,afuk0.3,8a840.4,ast80.3,7x9g0.4,ast80.3,7x9g0.4,ast80.3,8a840.4,afuk0.3,8a840.4,afuk0.3,8a840.4,ast80.3,7x9g0.4,ast80.3,7x9g0.4,ast80.3,6udg0.4,c8nw0.3,6hes0.4,c8nw0.3,6hes0.4,c8nw0.3,6udg0.4,c8nw0.3,6hes0.4,c8nw0.3,6hes0.4,c8nw0.3,6hes0.4,c8nw0.3,6hes0.4,c8nw0.3,6hes0.4,c8nw0.3,6udg0.4,c8nw0.3,6hes0.4,c8nw0.3,6hes0.4,c8nw0.3,6hes0.4,c8nw0.3,6hes0.4,c8nw0.3,6udg0.4,c8nw0.3,6hes0.4,c8nw0.3,6hes0.4,c8nw0.3,6hes0.4,c8nw0.3,6hes0.4,c8nw0.3,6hes0.4,c8nw0.3,6udg0.4,c8nw0.3,6hes0.4,c8nw0.3,6hes0.4,c8nw0.3,6hes0.4,c8nw0.3,6hes0.4,c8nw0.3,6udg0.4,c8nw0.3,6hes0.4,c8nw0.3,6hes0.4,c8nw0.3,6hes0.4,c8nw0.3,6hes0.4,c8nw0.3,6hes0.4,c8nw0.3|MST7MDT,M3.2.0,M11.1.0"),
  ("America/Iqaluit", "0,0;-14400,1;-18000,0;-14400,1;-14400,1;-21600,0;-18000,1;-14400,1;-18000,0|-eb6ao0.4,1l3h80.1,2dq40.2,dvfpg0.3,9cyk0.2,9d440.3,9cyk0.2,9d440.3,9cyk0.2,9d440.3,9cyk0.2,9d440.3,9px80.2,905g0.3,9px80.2,9d440.3,9cyk0.2,9d440.3,9cyk0.2,9d440.3,9cyk0.2,9d440.3,9cyk0.2,9d440.3,9px80.2,905g0.3,9px80.2,9d440.3,9cyk0.2,9d440.3,9cyk0.2,9d440.3,9cyk0.2,8a840.3,afuk0.2,8a840.3,ast80.2,7x9g0.3,ast80.2,7x9g0.3,ast80.2,8a840.3,afuk0.2,8a840.3,afuk0.2,8a840.3,ast80.2,7x9g0.3,ast80.2,7x9g0.3,ast80.2,8a840.3,afuk0.2,8a840.3,afuk0.2,8a840.3,afuk0.2,8a840.3,ast80.5,7xc80.6,ast80.2,7x6o0.3,ast80.2,8a840.3,afuk0.2,8a840.3,afuk0.2,8a840.3,ast80.2,7x9g0.3,ast80.2,7x9g0.3,ast80.2,6udg0.3,c8nw0.2,6hes0.3,c8nw0.2,6hes0.3,c8nw0.2,6udg0.3,c8nw0.2,6hes0.3,c8nw0.2,6hes0.3,c8nw0.2,6hes0.3,c8nw0.2,6hes0.3,c8nw0.2,6hes0.3,c8nw0.2,6udg0.3,c8nw0.2,6hes0.3,c8nw0.2,6hes0.3,c8nw0.2,6hes0.3,c8nw0.2,6hes0.3,c8nw0.2,6udg0.3,c8nw0.2,6hes0.3,c8nw0.2,6hes0.3,c8nw0.2,6hes0.3,c8nw0.2,6hes0.3,c8nw0.2,6hes0.3,c8nw0.2,6udg0.3,c8nw0.2,6hes0.3,c8nw0.2,6hes0.3,c8nw0.2,6hes0.3,c8nw0.2,6hes0.3,c8nw0.2,6udg0.3,c8nw0.2,6hes0.3,c8nw0.2,6hes0.3,c8nw0.2,6hes0.3,c8nw0.2,6hes0.3,c8nw0.2,6hes0.3,c8nw0.2|EST5EDT,M3.2.0,M11.1.0"),
  ("America/Jamaica", "-18430,0;-18430,0;-18000,0;-14400,1|-15r0v42.1,biv6o0.2,wbl182.3,f4d80.2,64g40.3,clmk0.2,9d440.3,9px80.2,905g0.3,9px80.2,9d440.3,9cyk0.2,9d440.3,9cyk0.2,9d440.3,9cyk0.2,9d440.3,9cyk0.2,9d440.3,9px80.2,905g0.3,9px80.2|EST5"),
  ("America/Juneau", "54139,0;-32261,0;-28800,0;-25200,1;-25200,1;-25200,1;-28800,1;-32400,0;-28800,1;-32400,0|-1hc7qjz.1,h4yu44.2,ln707v.3,1tz2s0.4,2dyg0.2,cawis0.5,9cyk0.2,9d440.5,9cyk0.2,9d440.5,9px80.2,9d440.5,9cyk0.2,9d440.5,9cyk0.2,3lpg0.5,f4d80.2,64g40.5,clmk0.2,9d440.5,9px80.2,905g0.5,9px80.2,9d440.5,9cyk0.2,9d440.5,9cyk0.2,9d440.6,9d1c0.2,9d1c0.5,9cyk0.2,9d440.5,9px80.2,905g0.5,9px80.7,1leo0.9,7rs80.8,9cyk0.9,9d440.8,9cyk0.9,9d440.8,9cyk0.9,8a840.8,afuk0.9,8a840.8,ast80.9,7x9g0.8,ast80.9,7x9g0.8,ast80.9,8a840.8,afuk0.9,8a840.8,afuk0.9,8a840.8,ast80.9,7x9g0.8,ast80.9,7x9g0.8,ast80.9,8a840.8,afuk0.9,8a840.8,afuk0.9,8a840.8,afuk0.9,8a840.8,ast80.9,7x9g0.8,ast80.9,7x9g0.8,ast80.9,8a840.8,afuk0.9,8a840.8,afuk0.9,8a840.8,ast80.9,7x9g0.8,ast80.9,7x9g0.8,ast80.9,6udg0.8,c8nw0.9,6hes0.8,c8nw0.9,6hes0.8,c8nw0.9,6udg0.8,c8nw0.9,6hes0.8,c8nw0.9,6hes0.8,c8nw0.9,6hes0.8,c8nw0.9,6hes0.8,c8nw0.9,6hes0.8,c8nw0.9,6udg0.8,c8nw0.9,6hes0.8,c8nw0.9,6hes0.8,c8nw0.9,6hes0.8,c8nw0.9,6hes0.8,c8nw0.9,6udg0.8,c8nw0.9,6hes0.8,c8nw0.9,6hes0.8,c8nw0.9,6hes0.8,c8nw0.9,6hes0.8,c8nw0.9,6hes0.8,c8nw0.9,6udg0.8,c8nw0.9,6hes0.8,c8nw0.9,6hes0.8,c8nw0.9,6hes0.8,c8nw0.9,6hes0.8,c8nw0.9,6udg0.8,c8nw0.9,6hes0.8,c8nw0.9,6hes0.8,c8nw0.9,6hes0.8,c8nw0.9,6hes0.8,c8nw0.9,6hes0.8,c8nw0.9|AKST9AKDT,M3.2.0,M11.1.0"),
  ("America/Kentucky/Louisville", "-20582,0;-18000,1;-21600,0;-21600,0;-18000,1;-18000,1;-18000,0;-14400,1|-18y0m00.3,hxltk0.1,ast80.2,7x9g0.1,ast80.2,sg5g0.1,6bp80.2,a98o40.1,7x3w0.2,6w840.4,1tz8c0.5,2dsw0.2,ast9o.1,1sw2c.2,21gis0.1,7k580.2,b5xg0.1,7x3w0.2,asys0.1,7x3w0.2,asys0.1,7x3w0.2,asys0.1,7x3w0.2,asys0.1,7x3w0.2,b5xg0.1,9cyk0.2,9d440.1,9cyk0.2,9d440.1,9cyk0.2,9d440.1,9cyk0.2,9d440.1,9px80.2,9d440.1,4bh80.6,3j3xc0.7,9cyk0.6,9d440.7,9cyk0.6,9d440.7,9cyk0.6,9d440.7,9px80.6,9d440.7,9cyk0.6,9d440.7,9cyk0.6,3lpg0.1,f4g00.6,64dc0.7,clmk0.6,9d440.7,9px80.6,905g0.7,9px80.6,9d440.7,9cyk0.6,9d440.7,9cyk0.6,9d440.7,9cyk0.6,9d440.7,9cyk0.6,9d440.7,9px80.6,905g0.7,9px80.6,9d440.7,9cyk0.6,9d440.7,9cyk0.6,9d440.7,9cyk0.6,8a840.7,afuk0.6,8a840.7,ast80.6,7x9g0.7,ast80.6,7x9g0.7,ast80.6,8a840.7,afuk0.6,8a840.7,afuk0.6,8a840.7,ast80.6,7x9g0.7,ast80.6,7x9g0.7,ast80.6,8a840.7,afuk0.6,8a840.7,afuk0.6,8a840.7,afuk0.6,8a840.7,ast80.6,7x9g0.7,ast80.6,7x9g0.7,ast80.6,8a840.7,afuk0.6,8a840.7,afuk0.6,8a840.7,ast80.6,7x9g0.7,ast80.6,7x9g0.7,ast80.6,6udg0.7,c8nw0.6,6hes0.7,c8nw0.6,6hes0.7,c8nw0.6,6udg0.7,c8nw0.6,6hes0.7,c8nw0.6,6hes0.7,c8nw0.6,6hes0.7,c8nw0.6,6hes0.7,c8nw0.6,6hes0.7,c8nw0.6,6udg0.7,c8nw0.6,6hes0.7,c8nw0.6,6hes0.7,c8nw0.6,6hes0.7,c8nw0.6,6hes0.7,c8nw0.6,6udg0.7,c8nw0.6,6hes0.7,c8nw0.6,6hes0.7,c8nw0.6,6hes0.7,c8nw0.6,6hes0.7,c8nw0.6,6hes0.7,c8nw0.6,6udg0.7,c8nw0.6,6hes0.7,c8nw0.6,6hes0.7,c8nw0.6,6hes0.7,c8nw0.6,6hes0.7,c8nw0.6,6udg0.7,c8nw0.6,6hes0.7,c8nw0.6,6hes0.7,c8nw0.6,6hes0.7,c8nw0.6,6hes0.7,c8nw0.6,6hes0.7,c8nw0.6|EST5EDT,M3.2.0,M11.1.0"),
  ("America/Kentucky/Monticello", "-20364,0;-18000,1;-21600,0;-18000,1;-18000,1;-21600,0;-14400,1;-18000,0|-18y0m00.5,hxltk0.1,ast80.2,7x9g0.1,ast80.2,bmtus0.3,1tz8c0.4,2dsw0.2,bs6g40.1,9cyk0.2,9d440.1,9cyk0.2,9d440.1,9cyk0.2,9d440.1,9px80.2,9d440.1,9cyk0.2,9d440.1,9cyk0.2,3lpg0.1,f4d80.2,64g40.1,clmk0.2,9d440.1,9px80.2,905g0.1,9px80.2,9d440.1,9cyk0.2,9d440.1,9cyk0.2,9d440.1,9cyk0.2,9d440.1,9cyk0.2,9d440.1,9px80.2,905g0.1,9px80.2,9d440.1,9cyk0.2,9d440.1,9cyk0.2,9d440.1,9cyk0.2,8a840.1,afuk0.2,8a840.1,ast80.2,7x9g0.1,ast80.2,7x9g0.1,ast80.2,8a840.1,afuk0.2,8a840.1,afuk0.2,8a840.1,ast80.2,7x9g0.1,ast80.2,7x9g0.1,ast80.2,8a840.1,afuk0.2,8a840.1,afuk0.2,8a840.1,afuk0.2,8a840.1,ast80.2,7x9g0.1,ast80.7,7x6o0.6,ast80.7,8a840.6,afuk0.7,8a840.6,afuk0.7,8a840.6,ast80.7,7x9g0.6,ast80.7,7x9g0.6,ast80.7,6udg0.6,c8nw0.7,6hes0.6,c8nw0.7,6hes0.6,c8nw0.7,6udg0.6,c8nw0.7,6hes0.6,c8nw0.7,6hes0.6,c8nw0.7,6hes0.6,c8nw0.7,6hes0.6,c8nw0.7,6hes0.6,c8nw0.7,6udg0.6,c8nw0.7,6hes0.6,c8nw0.7,6hes0.6,c8nw0.7,6hes0.6,c8nw0.7,6hes0.6,c8nw0.7,6udg0.6,c8nw0.7,6hes0.6,c8nw0.7,6hes0.6,c8nw0.7,6hes0.6,c8nw0.7,6hes0.6,c8nw0.7,6hes0.6,c8nw0.7,6udg0.6,c8nw0.7,6hes0.6,c8nw0.7,6hes0.6,c8nw0.7,6hes0.6,c8nw0.7,6hes0.6,c8nw0.7,6udg0.6,c8nw0.7,6hes0.6,c8nw0.7,6hes0.6,c8nw0.7,6hes0.6,c8nw0.7,6hes0.6,c8nw0.7,6hes0.6,c8nw0.7|EST5EDT,M3.2.0,M11.1.0"),
  ("America/La_Paz", "-16356,0;-16356,0;-12756,1;-14400,0|-15r0wpo.1,lt1400.2,84ik0.3,1j8fb57.3|<-04>4"),
  ("America/Lima", "-18492,0;-18516,0;-14400,1;-18000,0|-15r0v2c.1,9ov9co.3,fcxjlo.2,4ml80.3,93us0.2,9cyk0.3,9d440.2,9cyk0.3,nw16s0.2,4ml80.3,e5c40.2,4ml80.3,1fr1g0.2,4ml80.3,1yiys0.2,4ml80.3,muzpvj.3|<-05>5"),
  ("America/Los_Angeles", "-28378,0;-25200,1;-28800,0;-25200,1;-25200,1;-28800,0|-18y0gg0.5,hxltk0.1,ast80.2,7x9g0.1,ast80.2,bmtus0.3,1tz2s0.4,2dyg0.2,1a3c5o.1,f2iic.2,owao0.1,7k800.2,b5uo0.1,7x6o0.2,asw00.1,7x6o0.2,asw00.1,7x6o0.2,asw00.1,7x6o0.2,asw00.1,7x6o0.2,b5uo0.1,7x6o0.2,asw00.1,7x6o0.2,asw00.1,7x6o0.2,asw00.1,7x6o0.2,asw00.1,7x6o0.2,b5uo0.1,7k800.2,b5uo0.1,9d1c0.2,9d1c0.1,9d1c0.2,9d1c0.1,9d1c0.2,9d1c0.1,9q000.2,902o0.1,9q000.2,9d440.1,9cyk0.2,9d440.1,9cyk0.2,9d440.1,9cyk0.2,9d440.1,9cyk0.2,9d440.1,9px80.2,9d440.1,9cyk0.2,9d440.1,9cyk0.2,3lpg0.1,f4d80.2,64g40.1,clmk0.2,9d440.1,9px80.2,905g0.1,9px80.2,9d440.1,9cyk0.2,9d440.1,9cyk0.2,9d440.1,9cyk0.2,9d440.1,9cyk0.2,9d440.1,9px80.2,905g0.1,9px80.2,9d440.1,9cyk0.2,9d440.1,9cyk0.2,9d440.1,9cyk0.2,8a840.1,afuk0.2,8a840.1,ast80.2,7x9g0.1,ast80.2,7x9g0.1,ast80.2,8a840.1,afuk0.2,8a840.1,afuk0.2,8a840.1,ast80.2,7x9g0.1,ast80.2,7x9g0.1,ast80.2,8a840.1,afuk0.2,8a840.1,afuk0.2,8a840.1,afuk0.2,8a840.1,ast80.2,7x9g0.1,ast80.2,7x9g0.1,ast80.2,8a840.1,afuk0.2,8a840.1,afuk0.2,8a840.1,ast80.2,7x9g0.1,ast80.2,7x9g0.1,ast80.2,6udg0.1,c8nw0.2,6hes0.1,c8nw0.2,6hes0.1,c8nw0.2,6udg0.1,c8nw0.2,6hes0.1,c8nw0.2,6hes0.1,c8nw0.2,6hes0.1,c8nw0.2,6hes0.1,c8nw0.2,6hes0.1,c8nw0.2,6udg0.1,c8nw0.2,6hes0.1,c8nw0.2,6hes0.1,c8nw0.2,6hes0.1,c8nw0.2,6hes0.1,c8nw0.2,6udg0.1,c8nw0.2,6hes0.1,c8nw0.2,6hes0.1,c8nw0.2,6hes0.1,c8nw0.2,6hes0.1,c8nw0.2,6hes0.1,c8nw0.2,6udg0.1,c8nw0.2,6hes0.1,c8nw0.2,6hes0.1,c8nw0.2,6hes0.1,c8nw0.2,6hes0.1,c8nw0.2,6udg0.1,c8nw0.2,6hes0.1,c8nw0.2,6hes0.1,c8nw0.2,6hes0.1,c8nw0.2,6hes0.1,c8nw0.2,6hes0.1,c8nw0.2|PST8PDT,M3.2.0,M11.1.0"),
  ("America/Maceio", "-8572,0;-7200,1;-10800,0|-t85ldw.2,99kaxw.1,9a9c0.2,9io40.1,99980.2,8p65g0.1,6zuo0.2,bs2o0.1,67zw0.2,cjxg0.1,69uk0.2,cjxg0.1,4ml80.2,5mf440.1,49mk0.2,haas0.1,316k0.2,cls40.1,4ml80.2,cls40.1,66580.2,cls40.1,67zw0.2,981s40.1,6u7w0.2,biw40.1,5rbw0.2,d0lg0.1,5ed80.2,cyqs0.1,5ed80.2,dbpg0.1,64ak0.2,2yl440.1,64ak0.2,1wf1g0.1,7k580.2,biw40.1,puk0.2,id6s0.1,6h980.2,iqwe3j.2|<-03>3"),
  ("America/Managua", "-20708,0;-20712,0;-21600,0;-18000,0;-18000,1;-21600,0|-15r0tcs.1,n7jmo4.2,ka1i0o.3,xqqk0.2,24p6s0.4,53980.2,dmtg0.4,53980.2,60itw0.3,dq240.2,53es0.3,235h80.2,4beis0.4,8zzw0.2,at4c0.4,7x140.2|CST6"),
  ("America/Manaus", "-14404,0;-10800,1;-14400,0|-t85gvw.2,99k97w.1,9a9c0.2,9io40.1,99980.2,8p65g0.1,6zuo0.2,bs2o0.1,67zw0.2,cjxg0.1,69uk0.2,cjxg0.1,4ml80.2,5mf440.1,49mk0.2,haas0.1,316k0.2,cls40.1,4ml80.2,cls40.1,66580.2,cls40.1,67zw0.2,981s40.1,6u7w0.2,biw40.1,5rbw0.2,d0lg0.1,5ed80.2,2yy2s0.1,6h980.2,mx1vbj.2|<-04>4"),
  ("America/Martinique", "-14660,0;-14660,0;-14400,0;-10800,1|-15r0y0s.1,b4o2o0.2,zz5x4s.3,8zzw0.2|AST4"),
  ("America/Matamoros", "-23400,0;-21600,0;-18000,1;-21600,0|-p1u7c0.1,ykt480.2,ast80.3,3vppg0.2,afuk0.3,8a840.2,afuk0.3,8a840.2,afuk0.3,8a840.2,ast80.3,7x9g0.2,ast80.3,9q2s0.2,7k580.3,9q2s0.2,afuk0.3,8a840.2,afuk0.3,8a840.2,ast80.3,7x9g0.2,ast80.3,7x9g0.2,ast80.3,7x9g0.2,ast80.3,8a840.2,afuk0.3,8a840.2,afuk0.3,77c40.2,c8nw0.3,6hes0.2,c8nw0.3,6hes0.2,c8nw0.3,6hes0.2,c8nw0.3,6hes0.2,c8nw0.3,6hes0.2,c8nw0.3,6udg0.2,c8nw0.3,6hes0.2,c8nw0.3,6hes0.2,c8nw0.3,6hes0.2,c8nw0.3,6hes0.2,c8nw0.3,6udg0.2,c8nw0.3,6hes0.2,c8nw0.3,6hes0.2,c8nw0.3,6hes0.2,c8nw0.3,6hes0.2,c8nw0.3,6hes0.2,c8nw0.3,6udg0.2,c8nw0.3,6hes0.2,c8nw0.3,6hes0.2,c8nw0.3,6hes0.2,c8nw0.3,6hes0.2,c8nw0.3,6udg0.2,c8nw0.3,6hes0.2,c8nw0.3,6hes0.2,c8nw0.3,6hes0.2,c8nw0.3,6hes0.2,c8nw0.3,6hes0.2,c8nw0.3|CST6CDT,M3.2.0,M11.1.0"),
  ("America/Mazatlan", "-25540,0;-25200,0;-21600,0;-21600,1;-25200,0|-p1u4k0.1,2u5s00.2,1si580.4,8jhg0.3,7x3w0.4,9eys0.2,591h80.4,s5qoc0.3,afuk0.4,8a840.3,afuk0.4,8a840.3,afuk0.4,8a840.3,ast80.4,7x9g0.3,ast80.4,9q2s0.3,7k580.4,9q2s0.3,afuk0.4,8a840.3,afuk0.4,8a840.3,ast80.4,7x9g0.3,ast80.4,7x9g0.3,ast80.4,7x9g0.3,ast80.4,8a840.3,afuk0.4,8a840.3,afuk0.4,8a840.3,ast80.4,7x9g0.3,ast80.4,7x9g0.3,ast80.4,8a840.3,afuk0.4,8a840.3,afuk0.4,8a840.3,afuk0.4,8a840.3,ast80.4,7x9g0.3,ast80.4,7x9g0.3,ast80.4,8a840.3,afuk0.4,8a840.3,afuk0.4,8a840.3,ast80.4,7x9g0.3,ast80.4|MST7"),
  ("America/Menominee", "-21027,0;-18000,1;-21600,0;-18000,1;-18000,1;-18000,0;-21600,0|-17zjvrx.2,gz53bx.1,ast80.2,7x9g0.1,ast80.2,bmtus0.3,1tz8c0.4,2dsw0.2,asys0.1,7x3w0.2,a7n9g0.1,9px80.2,1at9g0.5,2396k0.1,9d1c0.2,3lpg0.1,f4d80.2,64g40.1,clmk0.2,9d440.1,9px80.2,905g0.1,9px80.2,9d440.1,9cyk0.2,9d440.1,9cyk0.2,9d440.1,9cyk0.2,9d440.1,9cyk0.2,9d440.1,9px80.2,905g0.1,9px80.2,9d440.1,9cyk0.2,9d440.1,9cyk0.2,9d440.1,9cyk0.2,8a840.1,afuk0.2,8a840.1,ast80.2,7x9g0.1,ast80.2,7x9g0.1,ast80.2,8a840.1,afuk0.2,8a840.1,afuk0.2,8a840.1,ast80.2,7x9g0.1,ast80.2,7x9g0.1,ast80.2,8a840.1,afuk0.2,8a840.1,afuk0.2,8a840.1,afuk0.2,8a840.1,ast80.2,7x9g0.1,ast80.2,7x9g0.1,ast80.2,8a840.1,afuk0.2,8a840.1,afuk0.2,8a840.1,ast80.2,7x9g0.1,ast80.2,7x9g0.1,ast80.2,6udg0.1,c8nw0.2,6hes0.1,c8nw0.2,6hes0.1,c8nw0.2,6udg0.1,c8nw0.2,6hes0.1,c8nw0.2,6hes0.1,c8nw0.2,6hes0.1,c8nw0.2,6hes0.1,c8nw0.2,6hes0.1,c8nw0.2,6udg0.1,c8nw0.2,6hes0.1,c8nw0.2,6hes0.1,c8nw0.2,6hes0.1,c8nw0.2,6hes0.1,c8nw0.2,6udg0.1,c8nw0.2,6hes0.1,c8nw0.2,6hes0.1,c8nw0.2,6hes0.1,c8nw0.2,6hes0.1,c8nw0.2,6hes0.1,c8nw0.2,6udg0.1,c8nw0.2,6hes0.1,c8nw0.2,6hes0.1,c8nw0.2,6hes0.1,c8nw0.2,6hes0.1,c8nw0.2,6udg0.1,c8nw0.2,6hes0.1,c8nw0.2,6hes0.1,c8nw0.2,6hes0.1,c8nw0.2,6hes0.1,c8nw0.2,6hes0.1,c8nw0.2|CST6CDT,M3.2.0,M11.1.0"),
  ("America/Merida", "-21508,0;-21600,0;-18000,0;-18000,1;-21600,0|-p1u7c0.1,vb0dk0.2,fzuk0.4,70bes0.3,afuk0.4,8a840.3,afuk0.4,8a840.3,afuk0.4,8a840.3,ast80.4,7x9g0.3,ast80.4,9q2s0.3,7k580.4,9q2s0.3,afuk0.4,8a840.3,afuk0.4,8a840.3,ast80.4,7x9g0.3,ast80.4,7x9g0.3,ast80.4,7x9g0.3,ast80.4,8a840.3,afuk0.4,8a840.3,afuk0.4,8a840.3,ast80.4,7x9g0.3,ast80.4,7x9g0.3,ast80.4,8a840.3,afuk0.4,8a840.3,afuk0.4,8a840.3,afuk0.4,8a840.3,ast80.4,7x9g0.3,ast80.4,7x9g0.3,ast80.4,8a840.3,afuk0.4,8a840.3,afuk0.4,8a840.3,ast80.4,7x9g0.3,ast80.4|CST6"),
  ("America/Metlakatla", "54822,0;-31578,0;-28800,0;-25200,1;-25200,1;-25200,1;-32400,0;-28800,1|-1hc7qjz.1,h4ytl5.2,ln70qu.3,1tz2s0.4,2dyg0.2,cawis0.5,9cyk0.2,9d440.5,9cyk0.2,9d440.5,9px80.2,9d440.5,9cyk0.2,9d440.5,9cyk0.2,3lpg0.5,f4d80.2,64g40.5,clmk0.2,9d440.5,9px80.2,905g0.5,9px80.2,9d440.5,9cyk0.2,9d440.5,9cyk0.2,9d440.5,9cyk0.2,9d440.5,9cyk0.2,9d440.5,9px80.2,905g0.5,9px80.2,gpc840.6,6udg0.7,c8nw0.6,6hes0.7,c8nw0.6,6hes0.7,c8nw0.2,3ylc0.6,2itg0.7,c8nw0.6,6hes0.7,c8nw0.6,6udg0.7,c8nw0.6,6hes0.7,c8nw0.6,6hes0.7,c8nw0.6,6hes0.7,c8nw0.6,6hes0.7,c8nw0.6,6hes0.7,c8nw0.6,6udg0.7,c8nw0.6,6hes0.7,c8nw0.6,6hes0.7,c8nw0.6,6hes0.7,c8nw0.6,6hes0.7,c8nw0.6,6udg0.7,c8nw0.6,6hes0.7,c8nw0.6,6hes0.7,c8nw0.6,6hes0.7,c8nw0.6,6hes0.7,c8nw0.6,6hes0.7,c8nw0.6|AKST9AKDT,M3.2.0,M11.1.0"),
  ("America/Mexico_City", "-23796,0;-25200,0;-21600,0;-21600,1;-25200,0;-18000,1;-18000,1;-21600,0|-p1u4k0.1,2u5s00.2,1si580.4,8jhg0.3,7x3w0.4,9eys0.2,3knek0.5,776k0.2,rf440.5,5t6k0.2,1evk40.6,71mk0.2,30p1g0.5,8n180.2,nufxo0.5,afuk0.2,8a840.5,afuk0.2,8a840.5,afuk0.2,8a840.5,ast80.2,7x9g0.5,ast80.2,9q2s0.5,7k580.2,9q2s0.5,afuk0.2,8a840.5,afuk0.2,8a840.5,ast80.2,7x9g0.5,ast80.2,7x9g0.5,ast80.2,7x9g0.5,ast80.2,8a840.5,afuk0.2,8a840.5,afuk0.2,8a840.5,ast80.2,7x9g0.5,ast80.2,7x9g0.5,ast80.2,8a840.5,afuk0.2,8a840.5,afuk0.2,8a840.5,afuk0.2,8a840.5,ast80.2,7x9g0.5,ast80.2,7x9g0.5,ast80.2,8a840.5,afuk0.2,8a840.5,afuk0.2,8a840.5,ast80.2,7x9g0.5,ast80.2|CST6"),
  ("America/Miquelon", "-13480,0;-14400,0;-10800,0;-7200,1|-uk1k9k.1,zy4wpk.2,3m59g0.3,afuk0.2,8a840.3,ast80.2,7x9g0.3,ast80.2,7x9g0.3,ast80.2,8a840.3,afuk0.2,8a840.3,afuk0.2,8a840.3,ast80.2,7x9g0.3,ast80.2,7x9g0.3,ast80.2,8a840.3,afuk0.2,8a840.3,afuk0.2,8a840.3,afuk0.2,8a840.3,ast80.2,7x9g0.3,ast80.2,7x9g0.3,ast80.2,8a840.3,afuk0.2,8a840.3,afuk0.2,8a840.3,ast80.2,7x9g0.3,ast80.2,7x9g0.3,ast80.2,6udg0.3,c8nw0.2,6hes0.3,c8nw0.2,6hes0.3,c8nw0.2,6udg0.3,c8nw0.2,6hes0.3,c8nw0.2,6hes0.3,c8nw0.2,6hes0.3,c8nw0.2,6hes0.3,c8nw0.2,6hes0.3,c8nw0.2,6udg0.3,c8nw0.2,6hes0.3,c8nw0.2,6hes0.3,c8nw0.2,6hes0.3,c8nw0.2,6hes0.3,c8nw0.2,6udg0.3,c8nw0.2,6hes0.3,c8nw0.2,6hes0.3,c8nw0.2,6hes0.3,c8nw0.2,6hes0.3,c8nw0.2,6hes0.3,c8nw0.2,6udg0.3,c8nw0.2,6hes0.3,c8nw0.2,6hes0.3,c8nw0.2,6hes0.3,c8nw0.2,6hes0.3,c8nw0.2,6udg0.3,c8nw0.2,6hes0.3,c8nw0.2,6hes0.3,c8nw0.2,6hes0.3,c8nw0.2,6hes0.3,c8nw0.2,6hes0.3,c8nw0.2,428jj.2|<-03>3<-02>,M3.2.0,M11.1.0"),
  ("America/Moncton", "-15548,0;-18000,0;-10800,1;-14400,0;-10800,1;-10800,1|-18wys04.1,9nu9w4.3,89fhg0.2,a2vw0.3,7mqqo0.2,4ofw0.3,e1ms0.2,4ofw0.3,e1ms0.2,4ofw0.3,e1ms0.2,4ofw0.3,e1ms0.2,4ofw0.3,e1ms0.2,4ofw0.3,dmtg0.2,64ak0.3,cao40.2,6fek0.3,bkqs0.2,7iak0.3,6y5k0.4,1tzdw0.5,2dnc0.3,asys0.2,7x3w0.3,asys0.2,7x3w0.3,asys0.2,7x3w0.3,asys0.2,7x3w0.3,b5xg0.2,7k580.3,b5xg0.2,7x3w0.3,asys0.2,7x3w0.3,asys0.2,7x3w0.3,asys0.2,7x3w0.3,asys0.2,7x3w0.3,b5xg0.2,7x3w0.3,asys0.2,9cyk0.3,9d440.2,9cyk0.3,9d440.2,9cyk0.3,9d440.2,9px80.3,9d440.2,9cyk0.3,9d440.2,9cyk0.3,9d440.2,9cyk0.3,9d440.2,9cyk0.3,9d440.2,9px80.3,905g0.2,9px80.3,9d440.2,9cyk0.3,9d440.2,9cyk0.3,9d440.2,9cyk0.3,9d440.2,9cyk0.3,9d440.2,9px80.3,9d440.2,9cyk0.3,s36s0.2,9cyk0.3,9d440.2,9cyk0.3,9d440.2,9px80.3,905g0.2,9px80.3,9d440.2,9cyk0.3,9d440.2,9cyk0.3,9d440.2,9cyk0.3,9d440.2,9cyk0.3,9d440.2,9px80.3,905g0.2,9px80.3,9d440.2,9cyk0.3,9d440.2,9cyk0.3,9d440.2,9cyk0.3,8a840.2,afuk0.3,8a840.2,ast80.3,7x9g0.2,ast80.3,7x9g0.2,ast80.3,8a840.2,afuk0.3,8a840.2,afuk0.3,8a2lo.2,ast80.3,7x9g0.2,ast80.3,7x9g0.2,ast80.3,8a840.2,afuk0.3,8a840.2,afuk0.3,8a840.2,afuk0.3,8a840.2,ast80.3,7x9g0.2,ast80.3,7x9g0.2,ast80.3,8a840.2,afuk0.3,8a840.2,afuk0.3,8a840.2,ast80.3,7x9g0.2,ast80.3,7x9g0.2,ast80.3,6uiyc.2,c8nw0.3,6hes0.2,c8nw0.3,6hes0.2,c8nw0.3,6udg0.2,c8nw0.3,6hes0.2,c8nw0.3,6hes0.2,c8nw0.3,6hes0.2,c8nw0.3,6hes0.2,c8nw0.3,6hes0.2,c8nw0.3,6udg0.2,c8nw0.3,6hes0.2,c8nw0.3,6hes0.2,c8nw0.3,6hes0.2,c8nw0.3,6hes0.2,c8nw0.3,6udg0.2,c8nw0.3,6hes0.2,c8nw0.3,6hes0.2,c8nw0.3,6hes0.2,c8nw0.3,6hes0.2,c8nw0.3,6hes0.2,c8nw0.3,6udg0.2,c8nw0.3,6hes0.2,c8nw0.3,6hes0.2,c8nw0.3,6hes0.2,c8nw0.3,6hes0.2,c8nw0.3,6udg0.2,c8nw0.3,6hes0.2,c8nw0.3,6hes0.2,c8nw0.3,6hes0.2,c8nw0.3,6hes0.2,c8nw0.3,6hes0.2,c8nw0.3|AST4ADT,M3.2.0,M11.1.0"),
  ("America/Monterrey", "-24076,0;-25200,0;-21600,0;-21600,1;-25200,0;-18000,1;-21600,0|-p1u7c0.1,2u5us0.2,1si580.4,8jhg0.3,7x3w0.4,9eys0.2,t89k40.5,ast80.2,3vppg0.5,afuk0.2,8a840.5,afuk0.2,8a840.5,afuk0.2,8a840.5,ast80.2,7x9g0.5,ast80.2,9q2s0.5,7k580.2,9q2s0.5,afuk0.2,8a840.5,afuk0.2,8a840.5,ast80.2,7x9g0.5,ast80.2,7x9g0.5,ast80.2,7x9g0.5,ast80.2,8a840.5,afuk0.2,8a840.5,afuk0.2,8a840.5,ast80.2,7x9g0.5,ast80.2,7x9g0.5,ast80.2,8a840.5,afuk0.2,8a840.5,afuk0.2,8a840.5,afuk0.2,8a840.5,ast80.2,7x9g0.5,ast80.2,7x9g0.5,ast80.2,8a840.5,afuk0.2,8a840.5,afuk0.2,8a840.5,ast80.2,7x9g0.5,ast80.2|CST6"),
  ("America/Montevideo", "-13491,0;-13491,0;-14400,0;-12600,0;-10800,1;-10800,0;-9000,1;-7200,1;-5400,1;-7200,1|-w4mll9.1,67elc0.2,1s74p9.4,9et80.3,9exe0.4,9czy0.3,9exe0.4,9czy0.3,3ydyq0.4,7x5a0.3,asxe0.4,7x5a0.3,asxe0.4,7x5a0.3,asxe0.4,7x5a0.3,b5w20.4,7k6m0.3,b5w20.4,7k6m0.3,9q1e0.4,9czy0.3,asxe0.4,7x5a0.3,6do20.4,ppvy0.6,4mmm0.5,8g9qq0.6,901a0.5,38pe0.7,2inw0.5,2nf9g0.7,8zzw0.5,1e3s40.6,9o3y0.5,q8he0.7,2kik0.5,yxhg0.7,4bh80.5,s36s0.8,2vl60.6,905g0.5,5rg20.7,51ek0.5,weqs0.7,3yik0.5,e1ms0.7,4ofw0.5,erk40.7,3yik0.5,2vs40.7,gk7w0.5,41iys0.7,3wnw0.5,erk40.7,4bh80.5,c8tg0.7,64ak0.5,c8tg0.7,6u7w0.5,c8tg0.7,6h980.5,bvus0.7,6u7w0.5,614qs0.7,9q2s0.5,a31g0.7,7x3w0.5,ag040.7,8a2k0.5,asys0.7,7x3w0.5,asys0.7,7x3w0.5,asys0.7,8a2k0.5,ag040.7,8a2k0.5,ag040.7,8a2k0.5,asys0.7,7x3w0.5,asys0.7,7x3w0.5,asys0.7,7x3w0.5,bxogjj.5|<-03>3"),
  ("America/Montserrat", "-14932,0;-14400,0|-uj7wfk.1|AST4"),
  ("America/Nassau", "-18570,0;-14400,1;-18000,0;-14400,1;-14400,1|-u6m4c6.2,fqrow6.1,1e5h80.2,1lhg0.1,a0nc0.3,3awk0.2,9o00c0.4,9cyk0.2,9d440.4,9px80.2,905g0.4,9px80.2,9d440.4,9cyk0.2,9d440.4,9cyk0.2,9d440.4,9cyk0.2,9d440.4,9cyk0.2,9d440.4,9px80.2,9d440.4,9cyk0.2,9d440.4,9cyk0.2,9d440.4,9cyk0.2,9d440.4,9cyk0.2,9d440.4,9px80.2,905g0.4,9px80.2,9d440.4,9cyk0.2,9d440.4,9cyk0.2,9d440.4,9cyk0.2,9d440.4,9cyk0.2,9d440.4,9px80.2,905g0.4,9px80.2,9d440.4,9cyk0.2,9d440.4,9cyk0.2,9d440.4,9cyk0.2,8a840.4,afuk0.2,8a840.4,ast80.2,7x9g0.4,ast80.2,7x9g0.4,ast80.2,8a840.4,afuk0.2,8a840.4,afuk0.2,8a840.4,ast80.2,7x9g0.4,ast80.2,7x9g0.4,ast80.2,8a840.4,afuk0.2,8a840.4,afuk0.2,8a840.4,afuk0.2,8a840.4,ast80.2,7x9g0.4,ast80.2,7x9g0.4,ast80.2,8a840.4,afuk0.2,8a840.4,afuk0.2,8a840.4,ast80.2,7x9g0.4,ast80.2,7x9g0.4,ast80.2,6udg0.4,c8nw0.2,6hes0.4,c8nw0.2,6hes0.4,c8nw0.2,6udg0.4,c8nw0.2,6hes0.4,c8nw0.2,6hes0.4,c8nw0.2,6hes0.4,c8nw0.2,6hes0.4,c8nw0.2,6hes0.4,c8nw0.2,6udg0.4,c8nw0.2,6hes0.4,c8nw0.2,6hes0.4,c8nw0.2,6hes0.4,c8nw0.2,6hes0.4,c8nw0.2,6udg0.4,c8nw0.2,6hes0.4,c8nw0.2,6hes0.4,c8nw0.2,6hes0.4,c8nw0.2,6hes0.4,c8nw0.2,6hes0.4,c8nw0.2,6udg0.4,c8nw0.2,6hes0.4,c8nw0.2,6hes0.4,c8nw0.2,6hes0.4,c8nw0.2,6hes0.4,c8nw0.2,6udg0.4,c8nw0.2,6hes0.4,c8nw0.2,6hes0.4,c8nw0.2,6hes0.4,c8nw0.2,6hes0.4,c8nw0.2,6hes0.4,c8nw0.2|EST5EDT,M3.2.0,M11.1.0"),
  ("America/New_York", "-17762,0;-14400,1;-18000,0;-18000,0;-14400,1;-14400,1|-18y0os0.3,hxltk0.1,ast80.2,7x9g0.1,ast80.2,7x9g0.1,b5rw0.2,905g0.1,7x3w0.2,b5xg0.1,7k580.2,b5xg0.1,7x3w0.2,asys0.1,7x3w0.2,asys0.1,7x3w0.2,asys0.1,7x3w0.2,asys0.1,7x3w0.2,b5xg0.1,7x3w0.2,asys0.1,7x3w0.2,asys0.1,7x3w0.2,asys0.1,7x3w0.2,asys0.1,7x3w0.2,b5xg0.1,7k580.2,b5xg0.1,7x3w0.2,asys0.1,7x3w0.2,asys0.1,7x3w0.2,asys0.1,7x3w0.2,asys0.1,7x3w0.2,b5xg0.1,7k580.2,b5xg0.1,7x3w0.2,asys0.1,7x3w0.2,6w840.4,1tzb40.5,2dq40.2,asys0.1,7x3w0.2,asys0.1,7x3w0.2,asys0.1,7x3w0.2,asys0.1,7x3w0.2,b5xg0.1,7k580.2,b5xg0.1,7x3w0.2,asys0.1,7x3w0.2,asys0.1,7x3w0.2,asys0.1,7x3w0.2,asys0.1,9px80.2,9d440.1,9cyk0.2,9d440.1,9cyk0.2,9d440.1,9cyk0.2,9d440.1,9cyk0.2,9d440.1,9px80.2,9d440.1,9cyk0.2,9d440.1,9cyk0.2,9d440.1,9cyk0.2,9d440.1,9cyk0.2,9d440.1,9px80.2,905g0.1,9px80.2,9d440.1,9cyk0.2,9d440.1,9cyk0.2,9d440.1,9cyk0.2,9d440.1,9cyk0.2,9d440.1,9px80.2,9d440.1,9cyk0.2,9d440.1,9cyk0.2,3lpg0.1,f4d80.2,64g40.1,clmk0.2,9d440.1,9px80.2,905g0.1,9px80.2,9d440.1,9cyk0.2,9d440.1,9cyk0.2,9d440.1,9cyk0.2,9d440.1,9cyk0.2,9d440.1,9px80.2,905g0.1,9px80.2,9d440.1,9cyk0.2,9d440.1,9cyk0.2,9d440.1,9cyk0.2,8a840.1,afuk0.2,8a840.1,ast80.2,7x9g0.1,ast80.2,7x9g0.1,ast80.2,8a840.1,afuk0.2,8a840.1,afuk0.2,8a840.1,ast80.2,7x9g0.1,ast80.2,7x9g0.1,ast80.2,8a840.1,afuk0.2,8a840.1,afuk0.2,8a840.1,afuk0.2,8a840.1,ast80.2,7x9g0.1,ast80.2,7x9g0.1,ast80.2,8a840.1,afuk0.2,8a840.1,afuk0.2,8a840.1,ast80.2,7x9g0.1,ast80.2,7x9g0.1,ast80.2,6udg0.1,c8nw0.2,6hes0.1,c8nw0.2,6hes0.1,c8nw0.2,6udg0.1,c8nw0.2,6hes0.1,c8nw0.2,6hes0.1,c8nw0.2,6hes0.1,c8nw0.2,6hes0.1,c8nw0.2,6hes0.1,c8nw0.2,6udg0.1,c8nw0.2,6hes0.1,c8nw0.2,6hes0.1,c8nw0.2,6hes0.1,c8nw0.2,6hes0.1,c8nw0.2,6udg0.1,c8nw0.2,6hes0.1,c8nw0.2,6hes0.1,c8nw0.2,6hes0.1,c8nw0.2,6hes0.1,c8nw0.2,6hes0.1,c8nw0.2,6udg0.1,c8nw0.2,6hes0.1,c8nw0.2,6hes0.1,c8nw0.2,6hes0.1,c8nw0.2,6hes0.1,c8nw0.2,6udg0.1,c8nw0.2,6hes0.1,c8nw0.2,6hes0.1,c8nw0.2,6hes0.1,c8nw0.2,6hes0.1,c8nw0.2,6hes0.1,c8nw0.2|EST5EDT,M3.2.0,M11.1.0"),
  ("America/Nome", "46702,0;-39698,0;-39600,0;-36000,1;-36000,1;-39600,0;-36000,1;-32400,0;-28800,1;-32400,0|-1hc7qjz.1,h4yzup.2,ln72ta.3,1tyug0.4,2e6s0.2,b7yik0.5,12y080.6,9cyk0.5,9d440.6,9cyk0.5,9d440.6,9px80.5,9d440.6,9cyk0.5,9d440.6,9cyk0.5,3lpg0.6,f4d80.5,64g40.6,clmk0.5,9d440.6,9px80.5,905g0.6,9px80.5,9d440.6,9cyk0.5,9d440.6,9cyk0.5,9d440.6,9cyk0.5,9d440.6,9cyk0.5,9d440.6,9px80.5,905g0.6,9px80.7,1l6c0.9,7rs80.8,9cyk0.9,9d440.8,9cyk0.9,9d440.8,9cyk0.9,8a840.8,afuk0.9,8a840.8,ast80.9,7x9g0.8,ast80.9,7x9g0.8,ast80.9,8a840.8,afuk0.9,8a840.8,afuk0.9,8a840.8,ast80.9,7x9g0.8,ast80.9,7x9g0.8,ast80.9,8a840.8,afuk0.9,8a840.8,afuk0.9,8a840.8,afuk0.9,8a840.8,ast80.9,7x9g0.8,ast80.9,7x9g0.8,ast80.9,8a840.8,afuk0.9,8a840.8,afuk0.9,8a840.8,ast80.9,7x9g0.8,ast80.9,7x9g0.8,ast80.9,6udg0.8,c8nw0.9,6hes0.8,c8nw0.9,6hes0.8,c8nw0.9,6udg0.8,c8nw0.9,6hes0.8,c8nw0.9,6hes0.8,c8nw0.9,6hes0.8,c8nw0.9,6hes0.8,c8nw0.9,6hes0.8,c8nw0.9,6udg0.8,c8nw0.9,6hes0.8,c8nw0.9,6hes0.8,c8nw0.9,6hes0.8,c8nw0.9,6hes0.8,c8nw0.9,6udg0.8,c8nw0.9,6hes0.8,c8nw0.9,6hes0.8,c8nw0.9,6hes0.8,c8nw0.9,6hes0.8,c8nw0.9,6hes0.8,c8nw0.9,6udg0.8,c8nw0.9,6hes0.8,c8nw0.9,6hes0.8,c8nw0.9,6hes0.8,c8nw0.9,6hes0.8,c8nw0.9,6udg0.8,c8nw0.9,6hes0.8,c8nw0.9,6hes0.8,c8nw0.9,6hes0.8,c8nw0.9,6hes0.8,c8nw0.9,6hes0.8,c8nw0.9|AKST9AKDT,M3.2.0,M11.1.0"),
  ("America/Noronha", "-7780,0;-3600,1;-7200,0|-t85lzw.2,99k8rw.1,9a9c0.2,9io40.1,99980.2,8p65g0.1,6zuo0.2,bs2o0.1,67zw0.2,cjxg0.1,69uk0.2,cjxg0.1,4ml80.2,5mf440.1,49mk0.2,haas0.1,316k0.2,cls40.1,4ml80.2,cls40.1,66580.2,cls40.1,67zw0.2,981s40.1,6u7w0.2,biw40.1,5rbw0.2,d0lg0.1,5ed80.2,cyqs0.1,5ed80.2,dbpg0.1,64ak0.2,514g40.1,7k580.2,biw40.1,cvw0.2,iq5g0.1,6h980.2,iqwgvj.2|<-02>2"),
  ("America/North_Dakota/Beulah", "-24427,0;-21600,1;-25200,0;-21600,1;-21600,1;-25200,0;-18000,1;-21600,0|-18y0j80.5,hxltk0.1,ast80.2,7x9g0.1,ast80.2,bmtus0.3,1tz5k0.4,2dvo0.2,b9gdg0.1,9cyk0.2,9d440.1,9cyk0.2,9d440.1,9cyk0.2,9d440.1,9cyk0.2,9d440.1,9px80.2,9d440.1,9cyk0.2,9d440.1,9cyk0.2,3lpg0.1,f4d80.2,64g40.1,clmk0.2,9d440.1,9px80.2,905g0.1,9px80.2,9d440.1,9cyk0.2,9d440.1,9cyk0.2,9d440.1,9cyk0.2,9d440.1,9cyk0.2,9d440.1,9px80.2,905g0.1,9px80.2,9d440.1,9cyk0.2,9d440.1,9cyk0.2,9d440.1,9cyk0.2,8a840.1,afuk0.2,8a840.1,ast80.2,7x9g0.1,ast80.2,7x9g0.1,ast80.2,8a840.1,afuk0.2,8a840.1,afuk0.2,8a840.1,ast80.2,7x9g0.1,ast80.2,7x9g0.1,ast80.2,8a840.1,afuk0.2,8a840.1,afuk0.2,8a840.1,afuk0.2,8a840.1,ast80.2,7x9g0.1,ast80.2,7x9g0.1,ast80.2,8a840.1,afuk0.2,8a840.1,afuk0.2,8a840.1,ast80.2,7x9g0.1,ast80.2,7x9g0.1,ast80.2,6udg0.1,c8nw0.2,6hes0.1,c8nw0.2,6hes0.1,c8nw0.2,6udg0.1,c8nw0.7,6hc00.6,c8nw0.7,6hes0.6,c8nw0.7,6hes0.6,c8nw0.7,6hes0.6,c8nw0.7,6hes0.6,c8nw0.7,6udg0.6,c8nw0.7,6hes0.6,c8nw0.7,6hes0.6,c8nw0.7,6hes0.6,c8nw0.7,6hes0.6,c8nw0.7,6udg0.6,c8nw0.7,6hes0.6,c8nw0.7,6hes0.6,c8nw0.7,6hes0.6,c8nw0.7,6hes0.6,c8nw0.7,6hes0.6,c8nw0.7,6udg0.6,c8nw0.7,6hes0.6,c8nw0.7,6hes0.6,c8nw0.7,6hes0.6,c8nw0.7,6hes0.6,c8nw0.7,6udg0.6,c8nw0.7,6hes0.6,c8nw0.7,6hes0.6,c8nw0.7,6hes0.6,c8nw0.7,6hes0.6,c8nw0.7,6hes0.6,c8nw0.7|CST6CDT,M3.2.0,M11.1.0"),
  ("America/North_Dakota/Center", "-24312,0;-21600,1;-25200,0;-21600,1;-21600,1;-25200,0;-18000,1;-21600,0|-18y0j80.5,hxltk0.1,ast80.2,7x9g0.1,ast80.2,bmtus0.3,1tz5k0.4,2dvo0.2,b9gdg0.1,9cyk0.2,9d440.1,9cyk0.2,9d440.1,9cyk0.2,9d440.1,9cyk0.2,9d440.1,9px80.2,9d440.1,9cyk0.2,9d440.1,9cyk0.2,3lpg0.1,f4d80.2,64g40.1,clmk0.2,9d440.1,9px80.2,905g0.1,9px80.2,9d440.1,9cyk0.2,9d440.1,9cyk0.2,9d440.1,9cyk0.2,9d440.1,9cyk0.2,9d440.1,9px80.2,905g0.1,9px80.2,9d440.1,9cyk0.2,9d440.1,9cyk0.2,9d440.1,9cyk0.2,8a840.1,afuk0.2,8a840.1,ast80.2,7x9g0.1,ast80.2,7x9g0.1,ast80.2,8a840.1,afuk0.2,8a840.1,afuk0.7,8a5c0.6,ast80.7,7x9g0.6,ast80.7,7x9g0.6,ast80.7,8a840.6,afuk0.7,8a840.6,afuk0.7,8a840.6,afuk0.7,8a840.6,ast80.7,7x9g0.6,ast80.7,7x9g0.6,ast80.7,8a840.6,afuk0.7,8a840.6,afuk0.7,8a840.6,ast80.7,7x9g0.6,ast80.7,7x9g0.6,ast80.7,6udg0.6,c8nw0.7,6hes0.6,c8nw0.7,6hes0.6,c8nw0.7,6udg0.6,c8nw0.7,6hes0.6,c8nw0.7,6hes0.6,c8nw0.7,6hes0.6,c8nw0.7,6hes0.6,c8nw0.7,6hes0.6,c8nw0.7,6udg0.6,c8nw0.7,6hes0.6,c8nw0.7,6hes0.6,c8nw0.7,6hes0.6,c8nw0.7,6hes0.6,c8nw0.7,6udg0.6,c8nw0.7,6hes0.6,c8nw0.7,6hes0.6,c8nw0.7,6hes0.6,c8nw0.7,6hes0.6,c8nw0.7,6hes0.6,c8nw0.7,6udg0.6,c8nw0.7,6hes0.6,c8nw0.7,6hes0.6,c8nw0.7,6hes0.6,c8nw0.7,6hes0.6,c8nw0.7,6udg0.6,c8nw0.7,6hes0.6,c8nw0.7,6hes0.6,c8nw0.7,6hes0.6,c8nw0.7,6hes0.6,c8nw0.7,6hes0.6,c8nw0.7|CST6CDT,M3.2.0,M11.1.0"),
  ("America/North_Dakota/New_Salem", "-24339,0;-21600,1;-25200,0;-21600,1;-21600,1;-25200,0;-18000,1;-21600,0|-18y0j80.5,hxltk0.1,ast80.2,7x9g0.1,ast80.2,bmtus0.3,1tz5k0.4,2dvo0.2,b9gdg0.1,9cyk0.2,9d440.1,9cyk0.2,9d440.1,9cyk0.2,9d440.1,9cyk0.2,9d440.1,9px80.2,9d440.1,9cyk0.2,9d440.1,9cyk0.2,3lpg0.1,f4d80.2,64g40.1,clmk0.2,9d440.1,9px80.2,905g0.1,9px80.2,9d440.1,9cyk0.2,9d440.1,9cyk0.2,9d440.1,9cyk0.2,9d440.1,9cyk0.2,9d440.1,9px80.2,905g0.1,9px80.2,9d440.1,9cyk0.2,9d440.1,9cyk0.2,9d440.1,9cyk0.2,8a840.1,afuk0.2,8a840.1,ast80.2,7x9g0.1,ast80.2,7x9g0.1,ast80.2,8a840.1,afuk0.2,8a840.1,afuk0.2,8a840.1,ast80.2,7x9g0.1,ast80.2,7x9g0.1,ast80.2,8a840.1,afuk0.2,8a840.1,afuk0.2,8a840.1,afuk0.2,8a840.1,ast80.2,7x9g0.1,ast80.2,7x9g0.1,ast80.2,8a840.1,afuk0.2,8a840.1,afuk0.7,8a5c0.6,ast80.7,7x9g0.6,ast80.7,7x9g0.6,ast80.7,6udg0.6,c8nw0.7,6hes0.6,c8nw0.7,6hes0.6,c8nw0.7,6udg0.6,c8nw0.7,6hes0.6,c8nw0.7,6hes0.6,c8nw0.7,6hes0.6,c8nw0.7,6hes0.6,c8nw0.7,6hes0.6,c8nw0.7,6udg0.6,c8nw0.7,6hes0.6,c8nw0.7,6hes0.6,c8nw0.7,6hes0.6,c8nw0.7,6hes0.6,c8nw0.7,6udg0.6,c8nw0.7,6hes0.6,c8nw0.7,6hes0.6,c8nw0.7,6hes0.6,c8nw0.7,6hes0.6,c8nw0.7,6hes0.6,c8nw0.7,6udg0.6,c8nw0.7,6hes0.6,c8nw0.7,6hes0.6,c8nw0.7,6hes0.6,c8nw0.7,6hes0.6,c8nw0.7,6udg0.6,c8nw0.7,6hes0.6,c8nw0.7,6hes0.6,c8nw0.7,6hes0.6,c8nw0.7,6hes0.6,c8nw0.7,6hes0.6,c8nw0.7|CST6CDT,M3.2.0,M11.1.0"),
  ("America/Nuuk", "-12416,0;-10800,0;-10800,0;-7200,1;-7200,1;-7200,0;-3600,1|-rvumf4.1,x8nqz4.4,8zrk0.2,9d1c0.3,9d1c0.2,9d1c0.3,9d1c0.2,9d1c0.3,9d1c0.2,9d1c0.3,9q000.2,9d1c0.3,9d1c0.2,9d1c0.3,9d1c0.2,9d1c0.3,9d1c0.2,9d1c0.3,9d1c0.2,9d1c0.3,9d1c0.2,9d1c0.3,9q000.2,9d1c0.3,9d1c0.2,9d1c0.3,9d1c0.2,9d1c0.3,9d1c0.2,9d1c0.3,9d1c0.2,9d1c0.3,9d1c0.2,9q000.3,asw00.2,7x6o0.3,asw00.2,7x6o0.3,asw00.2,7x6o0.3,b5uo0.2,7k800.3,b5uo0.2,7k800.3,b5uo0.2,7x6o0.3,asw00.2,7x6o0.3,asw00.2,7x6o0.3,b5uo0.2,7k800.3,b5uo0.2,7k800.3,b5uo0.2,7k800.3,b5uo0.2,7x6o0.3,asw00.2,7x6o0.3,asw00.2,7x6o0.3,b5uo0.2,7k800.3,b5uo0.2,7k800.3,b5uo0.2,7x6o0.3,asw00.2,7x6o0.3,asw00.2,7x6o0.3,asw00.2,7x6o0.3,b5uo0.2,7k800.3,b5uo0.2,7k800.3,b5uo0.2,7x6o0.3,asw00.2,7x6o0.3,asw00.2,7x6o0.3,b5uo0.2,7k800.3,b5uo0.2,7k800.5,j31c0.6,asw00.5,7x6o0.6,asw00.5,7x6o0.6,asw00.5,7x6o0.6,b5uo0.5,7k800.6,b5uo0.5,7k800.6,b5uo0.5,7x6o0.6,asw00.5,7x6o0.6,asw00.5,7x6o0.6,b5uo0.5,7k800.6,b5uo0.5,7k800.6,b5uo0.5,7k800.6,b5uo0.5,7x6o0.6,asw00.5,7x6o0.6,asw00.5,4ffjj.5|<-02>2<-01>,M3.5.0/-1,M10.5.0/0"),
  ("America/Ojinaga", "-25060,0;-25200,0;-21600,0;-21600,1;-25200,0;-18000,1;-21600,0|-p1u4k0.1,2u5s00.2,1si580.4,8jhg0.3,7x3w0.4,9eys0.2,xes2s0.5,afuk0.2,8a840.5,afuk0.2,8aaw0.3,afuk0.4,8a840.3,ast80.4,7x9g0.3,ast80.4,9q2s0.3,7k580.4,9q2s0.3,afuk0.4,8a840.3,afuk0.4,8a840.3,ast80.4,7x9g0.3,ast80.4,7x9g0.3,ast80.4,7x9g0.3,ast80.4,8a840.3,afuk0.4,8a840.3,afuk0.4,77c40.3,c8nw0.4,6hes0.3,c8nw0.4,6hes0.3,c8nw0.4,6hes0.3,c8nw0.4,6hes0.3,c8nw0.4,6hes0.3,c8nw0.4,6udg0.3,c8nw0.4,6hes0.3,c8nw0.4,6hes0.3,c8nw0.4,6hes0.3,c8nw0.4,6hes0.3,c8nw0.4,6udg0.3,c8nw0.4,6hes0.3,bvp80.2,6uao0.5,c8nw0.2,6hes0.5,c8nw0.2,6hes0.5,c8nw0.2,6hes0.5,c8nw0.2,6udg0.5,c8nw0.2,6hes0.5,c8nw0.2,6hes0.5,c8nw0.2,6hes0.5,c8nw0.2,6hes0.5,c8nw0.2,6udg0.5,c8nw0.2,6hes0.5,c8nw0.2,6hes0.5,c8nw0.2,6hes0.5,c8nw0.2,6hes0.5,c8nw0.2,6hes0.5,c8nw0.2|CST6CDT,M3.2.0,M11.1.0"),
  ("America/Panama", "-19088,0;-19176,0;-18000,0|-15r0uls.1,9jvmqg.2|EST5"),
  ("America/Paramaribo", "-13240,0;-13252,0;-13236,0;-12600,0;-10800,0|-usj4g8.1,cixc0c.2,5lydbk.3,kcrm6c.4,rtftxj.4|<-03>3"),
  ("America/Phoenix", "-26898,0;-21600,1;-25200,0;-21600,1;-25200,0|-18y0j80.4,hxltk0.1,ast80.2,7x9g0.1,ast80.2,bmtus0.3,zjedo.2,4olg0.3,9et80.2,bs6lmc.1,9cyk0.2|MST7"),
  ("America/Port-au-Prince", "-17360,0;-17340,0;-14400,1;-18000,0;-14400,1;-18000,0|-15r0vxs.1,e4gmng.3,ylcf6c.2,8zzw0.3,9d440.2,9cyk0.3,9d440.2,9cyk0.3,9d440.2,9cyk0.3,9d440.2,9cyk0.3,8aaw0.4,asw00.5,7x6o0.4,asw00.5,7x6o0.4,asw00.5,8a5c0.4,afxc0.5,8a5c0.4,afxc0.5,8a5c0.4,asw00.5,7x6o0.4,asw00.5,7x6o0.4,asw00.5,8a5c0.4,afxc0.5,8a5c0.4,afxc0.5,3vpjw0.2,ast80.3,7x9g0.2,ast80.3,2stv00.2,c8nw0.3,6hes0.2,c8nw0.3,6hes0.2,c8nw0.3,6hes0.2,c8nw0.3,pkg40.2,c8nw0.3,6hes0.2,c8nw0.3,6hes0.2,c8nw0.3,6hes0.2,c8nw0.3,6udg0.2,c8nw0.3,6hes0.2,c8nw0.3,6hes0.2,c8nw0.3,6hes0.2,c8nw0.3,6hes0.2,c8nw0.3,6hes0.2,c8nw0.3,6udg0.2,c8nw0.3,6hes0.2,c8nw0.3,6hes0.2,c8nw0.3,6hes0.2,c8nw0.3,6hes0.2,c8nw0.3,6udg0.2,c8nw0.3,6hes0.2,c8nw0.3,6hes0.2,c8nw0.3,6hes0.2,c8nw0.3,6hes0.2,c8nw0.3,6hes0.2,c8nw0.3|EST5EDT,M3.2.0,M11.1.0"),
  ("America/Port_of_Spain", "-14764,0;-14400,0|-u6m79w.1|AST4"),
  ("America/Porto_Velho", "-15336,0;-10800,1;-14400,0|-t85g60.2,99k8i0.1,9a9c0.2,9io40.1,99980.2,8p65g0.1,6zuo0.2,bs2o0.1,67zw0.2,cjxg0.1,69uk0.2,cjxg0.1,4ml80.2,5mf440.1,49mk0.2,haas0.1,316k0.2,cls40.1,4ml80.2,cls40.1,66580.2,cls40.1,67zw0.2,981s40.1,6u7w0.2,biw40.1,5rbw0.2,d0lg0.1,5ed80.2,q2h7bj.2|<-04>4"),
  ("America/Puerto_Rico", "-15865,0;-14400,0;-10800,1;-10800,1|-10xhp3b.1,mhp1jb.3,1ppu40.2,2dnc0.1|AST4"),
  ("America/Punta_Arenas", "-17020,0;-16965,0;-18000,0;-14400,0;-14400,1;-10800,1;-14400,0;-10800,0|-15r0w78.1,ag6lah.2,3dlssr.1,157b79.3,f4e0r.1,49hzb9.4,aye0r.2,7ves0.4,awik0.2,7ves0.4,awik0.2,7ves0.4,awik0.2,7ves0.4,ayd80.2,7ves0.3,534ik0.2,351g0.3,24lbw0.4,b25c0.2,2mg00.3,b73400.5,7k580.6,c8tg0.5,6h980.6,a31g0.5,7x3w0.6,asys0.5,7x3w0.6,b5xg0.5,7k580.6,ag040.5,8a2k0.6,b5xg0.5,7k580.6,b5xg0.5,7x3w0.6,asys0.5,7x3w0.6,asys0.5,7x3w0.6,b5xg0.5,7k580.6,b5xg0.5,7k580.6,b5xg0.5,7x3w0.6,asys0.5,7x3w0.6,asys0.5,7x3w0.6,asys0.5,7x3w0.6,b5xg0.5,7k580.6,b5xg0.5,7k580.6,b5xg0.5,9cyk0.6,9d440.5,7x3w0.6,asys0.5,7x3w0.6,b5xg0.5,7k580.6,9q2s0.5,8zzw0.6,b5xg0.5,7x3w0.6,asys0.5,7x3w0.6,asys0.5,7x3w0.6,asys0.5,7x3w0.6,b5xg0.5,7k580.6,b5xg0.5,8n180.6,a31g0.5,7x3w0.6,a31g0.5,9px80.6,9q2s0.5,7x3w0.6,b5xg0.5,7k580.6,b5xg0.5,7k580.6,b5xg0.5,7k580.6,b5xg0.5,7x3w0.6,asys0.5,7x3w0.6,asys0.5,7x3w0.6,b5xg0.5,7k580.6,b5xg0.5,8n180.6,a31g0.5,7x3w0.6,asys0.5,8zzw0.6,9q2s0.5,ast80.6,5eis0.5,cyl80.6,6hes0.5,c8nw0.6,6udg0.5,bvp80.6,6udg0.5,vonw0.6,4olg0.5,5rbw0.7,b0wwnj.7|<-03>3"),
  ("America/Rankin_Inlet", "0,0;-18000,1;-21600,0;-18000,0;-21600,0|-6s8lc0.2,7zza80.1,9cyk0.2,9d440.1,9cyk0.2,9d440.1,9cyk0.2,9d440.1,9cyk0.2,9d440.1,9px80.2,905g0.1,9px80.2,9d440.1,9cyk0.2,9d440.1,9cyk0.2,9d440.1,9cyk0.2,9d440.1,9cyk0.2,9d440.1,9px80.2,905g0.1,9px80.2,9d440.1,9cyk0.2,9d440.1,9cyk0.2,9d440.1,9cyk0.2,8a840.1,afuk0.2,8a840.1,ast80.2,7x9g0.1,ast80.2,7x9g0.1,ast80.2,8a840.1,afuk0.2,8a840.1,afuk0.2,8a840.1,ast80.2,7x9g0.1,ast80.2,7x9g0.1,ast80.2,8a840.1,afuk0.2,8a840.1,afuk0.2,8a840.1,afuk0.2,8a840.1,ast80.2,7x9g0.1,ast80.3,7x9g0.1,ast80.2,8a840.1,afuk0.2,8a840.1,afuk0.2,8a840.1,ast80.2,7x9g0.1,ast80.2,7x9g0.1,ast80.2,6udg0.1,c8nw0.2,6hes0.1,c8nw0.2,6hes0.1,c8nw0.2,6udg0.1,c8nw0.2,6hes0.1,c8nw0.2,6hes0.1,c8nw0.2,6hes0.1,c8nw0.2,6hes0.1,c8nw0.2,6hes0.1,c8nw0.2,6udg0.1,c8nw0.2,6hes0.1,c8nw0.2,6hes0.1,c8nw0.2,6hes0.1,c8nw0.2,6hes0.1,c8nw0.2,6udg0.1,c8nw0.2,6hes0.1,c8nw0.2,6hes0.1,c8nw0.2,6hes0.1,c8nw0.2,6hes0.1,c8nw0.2,6hes0.1,c8nw0.2,6udg0.1,c8nw0.2,6hes0.1,c8nw0.2,6hes0.1,c8nw0.2,6hes0.1,c8nw0.2,6hes0.1,c8nw0.2,6udg0.1,c8nw0.2,6hes0.1,c8nw0.2,6hes0.1,c8nw0.2,6hes0.1,c8nw0.2,6hes0.1,c8nw0.2,6hes0.1,c8nw0.2|CST6CDT,M3.2.0,M11.1.0"),
  ("America/Recife", "-8376,0;-7200,1;-10800,0|-t85ljc.2,99kb3c.1,9a9c0.2,9io40.1,99980.2,8p65g0.1,6zuo0.2,bs2o0.1,67zw0.2,cjxg0.1,69uk0.2,cjxg0.1,4ml80.2,5mf440.1,49mk0.2,haas0.1,316k0.2,cls40.1,4ml80.2,cls40.1,66580.2,cls40.1,67zw0.2,981s40.1,6u7w0.2,biw40.1,5rbw0.2,d0lg0.1,5ed80.2,cyqs0.1,5ed80.2,dbpg0.1,64ak0.2,514g40.1,7k580.2,biw40.1,cvw0.2,iq5g0.1,6h980.2,iqwe3j.2|<-03>3"),
  ("America/Regina", "-25116,0;-21600,1;-25200,0;-21600,1;-21600,1;-21600,0|-xkq9yc.2,6l1hmc.1,a2vw0.2,60enw0.1,7x3w0.2,asys0.1,7x3w0.2,asys0.1,7x3w0.2,b5xg0.1,7k580.2,b5xg0.1,7x3w0.2,1b6840.1,9cyk0.2,9d440.1,8zzw0.2,9q2s0.1,9cyk0.2,9q2s0.1,9cyk0.2,9d440.1,9cyk0.2,66gc0.3,1tz5k0.4,2dvo0.2,a31g0.1,9cyk0.2,a31g0.1,7x3w0.2,asys0.1,7x3w0.2,asys0.1,7x3w0.2,b5xg0.1,7k580.2,b5xg0.1,7x3w0.2,asys0.1,7x3w0.2,asys0.1,7x3w0.2,asys0.1,7x3w0.2,asys0.1,7x3w0.2,b5xg0.1,7x3w0.2,asys0.1,7x3w0.2,tj1g0.1,9cyk0.2,9d440.5|CST6"),
  ("America/Resolute", "0,0;-18000,1;-21600,0;-18000,0;-21600,0|-bnp9c0.2,cvfy80.1,9cyk0.2,9d440.1,9cyk0.2,9d440.1,9cyk0.2,9d440.1,9cyk0.2,9d440.1,9px80.2,905g0.1,9px80.2,9d440.1,9cyk0.2,9d440.1,9cyk0.2,9d440.1,9cyk0.2,9d440.1,9cyk0.2,9d440.1,9px80.2,905g0.1,9px80.2,9d440.1,9cyk0.2,9d440.1,9cyk0.2,9d440.1,9cyk0.2,8a840.1,afuk0.2,8a840.1,ast80.2,7x9g0.1,ast80.2,7x9g0.1,ast80.2,8a840.1,afuk0.2,8a840.1,afuk0.2,8a840.1,ast80.2,7x9g0.1,ast80.2,7x9g0.1,ast80.2,8a840.1,afuk0.2,8a840.1,afuk0.2,8a840.1,afuk0.2,8a840.1,ast80.2,7x9g0.1,ast80.3,7x9g0.1,ast80.2,8a840.1,afuk0.2,8a840.1,afuk0.2,8a840.1,ast80.2,7x9g0.1,ast80.2,7x9g0.1,ast80.3,6udg0.1,c8nw0.2,6hes0.1,c8nw0.2,6hes0.1,c8nw0.2,6udg0.1,c8nw0.2,6hes0.1,c8nw0.2,6hes0.1,c8nw0.2,6hes0.1,c8nw0.2,6hes0.1,c8nw0.2,6hes0.1,c8nw0.2,6udg0.1,c8nw0.2,6hes0.1,c8nw0.2,6hes0.1,c8nw0.2,6hes0.1,c8nw0.2,6hes0.1,c8nw0.2,6udg0.1,c8nw0.2,6hes0.1,c8nw0.2,6hes0.1,c8nw0.2,6hes0.1,c8nw0.2,6hes0.1,c8nw0.2,6hes0.1,c8nw0.2,6udg0.1,c8nw0.2,6hes0.1,c8nw0.2,6hes0.1,c8nw0.2,6hes0.1,c8nw0.2,6hes0.1,c8nw0.2,6udg0.1,c8nw0.2,6hes0.1,c8nw0.2,6hes0.1,c8nw0.2,6hes0.1,c8nw0.2,6hes0.1,c8nw0.2,6hes0.1,c8nw0.2|CST6CDT,M3.2.0,M11.1.0"),
  ("America/Rio_Branco", "-16272,0;-14400,1;-18000,0;-14400,0;-18000,0|-t85fg0.2,99kak0.1,9a9c0.2,9io40.1,99980.2,8p65g0.1,6zuo0.2,bs2o0.1,67zw0.2,cjxg0.1,69uk0.2,cjxg0.1,4ml80.2,5mf440.1,49mk0.2,haas0.1,316k0.2,cls40.1,4ml80.2,cls40.1,66580.2,cls40.1,67zw0.2,981s40.1,6u7w0.2,biw40.1,5rbw0.2,d0lg0.1,5ed80.2,amves0.3,2t2t80.2,cmiwjj.2|<-05>5"),
  ("America/Santarem", "-13128,0;-10800,1;-14400,0;-10800,0|-t85hvc.2,99ka7c.1,9a9c0.2,9io40.1,99980.2,8p65g0.1,6zuo0.2,bs2o0.1,67zw0.2,cjxg0.1,69uk0.2,cjxg0.1,4ml80.2,5mf440.1,49mk0.2,haas0.1,316k0.2,cls40.1,4ml80.2,cls40.1,66580.2,cls40.1,67zw0.2,981s40.1,6u7w0.2,biw40.1,5rbw0.2,d0lg0.1,5ed80.2,amves0.3,fflsjj.3|<-03>3"),
  ("America/Santiago", "-16965,0;-16965,0;-18000,0;-14400,0;-14400,1;-10800,1;-10800,1;-14400,0|-15r0w8r.1,ag6lc0.2,3dlssr.1,157b79.3,f4e0r.1,49hzb9.4,aye0r.2,7ves0.4,awik0.2,7ves0.4,awik0.2,7ves0.4,awik0.2,7ves0.4,ayd80.2,7ves0.3,534ik0.2,351g0.3,229zw0.5,2b980.4,b2840.2,2mg00.3,b73400.6,7k580.7,c8tg0.6,6h980.7,a31g0.6,7x3w0.7,asys0.6,7x3w0.7,b5xg0.6,7k580.7,ag040.6,8a2k0.7,b5xg0.6,7k580.7,b5xg0.6,7x3w0.7,asys0.6,7x3w0.7,asys0.6,7x3w0.7,b5xg0.6,7k580.7,b5xg0.6,7k580.7,b5xg0.6,7x3w0.7,asys0.6,7x3w0.7,asys0.6,7x3w0.7,asys0.6,7x3w0.7,b5xg0.6,7k580.7,b5xg0.6,7k580.7,b5xg0.6,9cyk0.7,9d440.6,7x3w0.7,asys0.6,7x3w0.7,b5xg0.6,7k580.7,9q2s0.6,8zzw0.7,b5xg0.6,7x3w0.7,asys0.6,7x3w0.7,asys0.6,7x3w0.7,asys0.6,7x3w0.7,b5xg0.6,7k580.7,b5xg0.6,8n180.7,a31g0.6,7x3w0.7,a31g0.6,9px80.7,9q2s0.6,7x3w0.7,b5xg0.6,7k580.7,b5xg0.6,7k580.7,b5xg0.6,7k580.7,b5xg0.6,7x3w0.7,asys0.6,7x3w0.7,asys0.6,7x3w0.7,b5xg0.6,7k580.7,b5xg0.6,8n180.7,a31g0.6,7x3w0.7,asys0.6,8zzw0.7,9q2s0.6,ast80.7,5eis0.6,cyl80.7,6hes0.6,c8nw0.7,6udg0.6,bvp80.7,6udg0.6,vonw0.7,4olg0.6,e1h80.7,4olg0.6,e1h80.7,4olg0.6,c8nw0.7,7x9g0.6,ast80.7,7x9g0.6,ast80.7,7x9g0.6,ast80.7,8a840.6,afuk0.7,7x9g0.6,b5rw0.7,7x9g0.6,ast80.7,7x9g0.6,ast80.7,7x9g0.6,ast80.7,7x9g0.6,ast80.7,7x9g0.6,b5rw0.7,7kas0.6,b5rw0.7,7x9g0.6,ast80.7,7x9g0.6,ast80.7,7x9g0.6,ast80.7,7x9g0.6,ast80.7,7x9g0.6,b5rw0.7,7kas0.6,b5rw0.7,7x9g0.6,ast80.7,7x9g0.6,6xxvj.6|<-04>4<-03>,M9.1.6/24,M4.1.6/24"),
  ("America/Santo_Domingo", "-16776,0;-16800,0;-14400,1;-18000,0;-16200,1;-14400,0|-15r0we0.1,mkixco.3,hiw29c.2,67zw0.3,1dy840.4,62ha0.3,cnle0.4,4h2m0.3,elyq0.4,47ta0.3,ei9e0.4,4bim0.3,eek20.4,4dda0.3,ecpe0.5,dkmtg0.3,1stc0.5|AST4"),
  ("America/Sao_Paulo", "-11188,0;-7200,1;-10800,0|-t85jd8.2,99k8x8.1,9a9c0.2,9io40.1,99980.2,8p65g0.1,6zuo0.2,bs2o0.1,67zw0.2,cjxg0.1,69uk0.2,cjxg0.1,4ml80.2,5k02s0.1,6onw0.2,haas0.1,316k0.2,cls40.1,4ml80.2,cls40.1,66580.2,cls40.1,67zw0.2,981s40.1,6u7w0.2,biw40.1,5rbw0.2,d0lg0.1,5ed80.2,cyqs0.1,5ed80.2,dbpg0.1,64ak0.2,cyqs0.1,64ak0.2,cls40.1,5rbw0.2,dbpg0.1,51ek0.2,dbpg0.1,6h980.2,c8tg0.1,6h980.2,c8tg0.1,64ak0.2,c8tg0.1,6u7w0.2,bxpg0.1,7iak0.2,biw40.1,6u7w0.2,biw40.1,7k580.2,biw40.1,6u7w0.2,c8tg0.1,6h980.2,dbpg0.1,5ed80.2,cls40.1,64ak0.2,dfes0.1,5nmk0.2,c8tg0.1,6h980.2,dbpg0.1,5rbw0.2,bvus0.1,6h980.2,cls40.1,64ak0.2,cls40.1,6h980.2,c8tg0.1,6h980.2,c8tg0.1,6u7w0.2,c8tg0.1,64ak0.2,cls40.1,64ak0.2,cls40.1,6h980.2,c8tg0.1,6h980.2,c8tg0.1,6h980.2,c8tg0.1,6h980.2,dbpg0.1,5ed80.2,9vi8rj.2|<-03>3"),
  ("America/Scoresbysund", "-5272,0;-7200,0;-3600,1;-7200,0;-3600,0;0,1;0,1;-3600,1;-7200,0|-rvurxk.1,x8ntpk.2,902o0.3,9cvs0.6,9cyk0.4,9d1c0.5,9d1c0.4,9d1c0.5,9d1c0.4,9d1c0.5,9q000.4,9d1c0.5,9d1c0.4,9d1c0.5,9d1c0.4,9d1c0.5,9d1c0.4,9d1c0.5,9d1c0.4,9d1c0.5,9d1c0.4,9d1c0.5,9q000.4,9d1c0.5,9d1c0.4,9d1c0.5,9d1c0.4,9d1c0.5,9d1c0.4,9d1c0.5,9d1c0.4,9d1c0.5,9d1c0.4,9q000.5,asw00.4,7x6o0.5,asw00.4,7x6o0.5,asw00.4,7x6o0.5,b5uo0.4,7k800.5,b5uo0.4,7k800.5,b5uo0.4,7x6o0.5,asw00.4,7x6o0.5,asw00.4,7x6o0.5,b5uo0.4,7k800.5,b5uo0.4,7k800.5,b5uo0.4,7k800.5,b5uo0.4,7x6o0.5,asw00.4,7x6o0.5,asw00.4,7x6o0.5,b5uo0.4,7k800.5,b5uo0.4,7k800.5,b5uo0.4,7x6o0.5,asw00.4,7x6o0.5,asw00.4,7x6o0.5,asw00.4,7x6o0.5,b5uo0.4,7k800.5,b5uo0.4,7k800.5,b5uo0.4,7x6o0.5,asw00.4,7x6o0.5,asw00.4,7x6o0.5,b5uo0.4,7k800.5,b5uo0.4,7k800.5,b5uo0.4,7x6o0.7,asw00.8,7x6o0.7,asw00.8,7x6o0.7,asw00.8,7x6o0.7,b5uo0.8,7k800.7,b5uo0.8,7k800.7,b5uo0.8,7x6o0.7,asw00.8,7x6o0.7,asw00.8,7x6o0.7,b5uo0.8,7k800.7,b5uo0.8,7k800.7,b5uo0.8,7k800.7,b5uo0.8,7x6o0.7,asw00.8,7x6o0.7,asw00.8,4ffjj.8|<-02>2<-01>,M3.5.0/-1,M10.5.0/0"),
  ("America/Sitka", "53927,0;-32473,0;-28800,0;-25200,1;-25200,1;-25200,1;-32400,0;-28800,1;-32400,0|-1hc7qjz.1,h4yua0.2,ln701z.3,1tz2s0.4,2dyg0.2,cawis0.5,9cyk0.2,9d440.5,9cyk0.2,9d440.5,9px80.2,9d440.5,9cyk0.2,9d440.5,9cyk0.2,3lpg0.5,f4d80.2,64g40.5,clmk0.2,9d440.5,9px80.2,905g0.5,9px80.2,9d440.5,9cyk0.2,9d440.5,9cyk0.2,9d440.5,9cyk0.2,9d440.5,9cyk0.2,9d440.5,9px80.2,905g0.5,9px80.6,1leo0.8,7rs80.7,9cyk0.8,9d440.7,9cyk0.8,9d440.7,9cyk0.8,8a840.7,afuk0.8,8a840.7,ast80.8,7x9g0.7,ast80.8,7x9g0.7,ast80.8,8a840.7,afuk0.8,8a840.7,afuk0.8,8a840.7,ast80.8,7x9g0.7,ast80.8,7x9g0.7,ast80.8,8a840.7,afuk0.8,8a840.7,afuk0.8,8a840.7,afuk0.8,8a840.7,ast80.8,7x9g0.7,ast80.8,7x9g0.7,ast80.8,8a840.7,afuk0.8,8a840.7,afuk0.8,8a840.7,ast80.8,7x9g0.7,ast80.8,7x9g0.7,ast80.8,6udg0.7,c8nw0.8,6hes0.7,c8nw0.8,6hes0.7,c8nw0.8,6udg0.7,c8nw0.8,6hes0.7,c8nw0.8,6hes0.7,c8nw0.8,6hes0.7,c8nw0.8,6hes0.7,c8nw0.8,6hes0.7,c8nw0.8,6udg0.7,c8nw0.8,6hes0.7,c8nw0.8,6hes0.7,c8nw0.8,6hes0.7,c8nw0.8,6hes0.7,c8nw0.8,6udg0.7,c8nw0.8,6hes0.7,c8nw0.8,6hes0.7,c8nw0.8,6hes0.7,c8nw0.8,6hes0.7,c8nw0.8,6hes0.7,c8nw0.8,6udg0.7,c8nw0.8,6hes0.7,c8nw0.8,6hes0.7,c8nw0.8,6hes0.7,c8nw0.8,6hes0.7,c8nw0.8,6udg0.7,c8nw0.8,6hes0.7,c8nw0.8,6hes0.7,c8nw0.8,6hes0.7,c8nw0.8,6hes0.7,c8nw0.8,6hes0.7,c8nw0.8|AKST9AKDT,M3.2.0,M11.1.0"),
  ("America/St_Johns", "-12652,0;-9052,1;-12652,0;-9000,1;-12600,0;-9000,1;-9000,1;-5400,1;-9000,1|-18vs8wk.2,hd05k0.1,8bx80.2,ar440.1,a2vw0.2,9tjs0.1,53980.2,dkys0.1,9cyk0.2,9d440.1,9cyk0.2,9q2s0.1,8zzw0.2,9q2s0.1,8zzw0.2,9q2s0.1,8zzw0.2,9q2s0.1,8zzw0.2,9q2s0.1,9cyk0.2,9d440.1,9cyk0.2,9q2s0.1,8zzw0.2,9q2s0.1,8zzw0.2,9q2s0.1,8zzw0.2,9q2s0.1,8zzw0.2,9q2s0.1,9cyk0.2,9q2s0.1,8zzw0.2,9q2s0.1,8zzw0.2,7tmw0.4,1wfuk.3,8zzw0.4,a3480.3,7k580.4,b5xg0.3,7k580.4,b5xg0.3,7k580.4,biw40.3,776k0.4,biw40.3,7k580.4,b5xg0.3,7k580.4,b5xg0.6,1pb260.5,2dly0.4,biw40.3,7k580.4,b5xg0.3,7k580.4,b5xg0.3,7k580.4,b5xg0.3,7k580.4,biw40.3,7k580.4,ag040.3,7x3w0.4,asys0.3,7x3w0.4,asys0.3,7x3w0.4,asys0.3,7x3w0.4,asys0.3,7x3w0.4,b5xg0.3,7x3w0.4,asys0.3,7x3w0.4,asys0.3,7x3w0.4,asys0.3,7x3w0.4,asys0.3,9px80.4,9d440.3,9cyk0.4,9d440.3,9cyk0.4,9d440.3,9cyk0.4,9d440.3,9cyk0.4,9d440.3,9px80.4,905g0.3,9px80.4,9d440.3,9cyk0.4,9d440.3,9cyk0.4,9d440.3,9cyk0.4,9d440.3,9cyk0.4,9d440.3,9px80.4,9d440.3,9cyk0.4,9d440.3,9cyk0.4,9d440.3,9cyk0.4,9d440.3,9cyk0.4,9d440.3,9px80.4,905g0.3,9px80.4,9d440.3,9cyk0.4,9d440.3,9cyk0.4,9d440.3,9cyk0.4,9d440.3,9cyk0.4,9d440.3,9px80.4,905g0.3,9px80.4,9d440.3,9cyk0.4,9d440.3,9cyk0.4,9d440.3,9cyk0.4,8a2lo.3,afuk0.4,8a840.7,asqg0.4,7xc80.3,ast80.4,7x9g0.3,ast80.4,8a840.3,afuk0.4,8a840.3,afuk0.4,8a840.3,ast80.4,7x9g0.3,ast80.4,7x9g0.3,ast80.4,8a840.3,afuk0.4,8a840.3,afuk0.4,8a840.3,afuk0.4,8a840.3,ast80.4,7x9g0.3,ast80.4,7x9g0.3,ast80.4,8a840.3,afuk0.4,8a840.3,afuk0.4,8a840.3,ast80.4,7x9g0.3,ast80.4,7x9g0.3,ast80.4,6udg0.3,c8nw0.4,6hes0.3,c8nw0.4,6hes0.3,c8nw0.4,6udg0.3,c8nw0.4,6hes0.3,c8tec.4,6hes0.3,c8nw0.4,6hes0.3,c8nw0.4,6hes0.3,c8nw0.4,6hes0.3,c8nw0.4,6udg0.3,c8nw0.4,6hes0.3,c8nw0.4,6hes0.3,c8nw0.4,6hes0.3,c8nw0.4,6hes0.3,c8nw0.4,6udg0.3,c8nw0.4,6hes0.3,c8nw0.4,6hes0.3,c8nw0.4,6hes0.3,c8nw0.4,6hes0.3,c8nw0.4,6hes0.3,c8nw0.4,6udg0.3,c8nw0.4,6hes0.3,c8nw0.4,6hes0.3,c8nw0.4,6hes0.3,c8nw0.4,6hes0.3,c8nw0.4,6udg0.3,c8nw0.4,6hes0.3,c8nw0.4,6hes0.3,c8nw0.4,6hes0.3,c8nw0.4,6hes0.3,c8nw0.4,6hes0.3,c8nw0.4|NST3:30NDT,M3.2.0,M11.1.0"),
  ("America/St_Kitts", "-15052,0;-14400,0|-u6m71w.1|AST4"),
  ("America/St_Lucia", "-14640,0;-14640,0;-14400,0|-15r0y1c.1,bh9s00.2|AST4"),
  ("America/St_Thomas", "-15584,0;-14400,0|-uj7vz4.1|AST4"),
  ("America/St_Vincent", "-14696,0;-14696,0;-14400,0|-15r0xzs.1,bh9s00.2|AST4"),
  ("America/Swift_Current", "-25880,0;-21600,1;-25200,0;-21600,1;-21600,1;-21600,0|-xkq9d4.2,6l1h14.1,a2vw0.2,c5jxg0.3,1tz5k0.4,2dvo0.2,asys0.1,8n180.2,a31g0.1,7x3w0.2,asys0.1,7x3w0.2,asys0.1,7x3w0.2,3yles0.1,9cyk0.2,s36s0.1,9cyk0.2,9d440.1,7x3w0.2,b5xg0.1,7k580.2,5j4lg0.5|CST6"),
  ("America/Tegucigalpa", "-20932,0;-18000,1;-21600,0|-pfzh6k.2,yho0ik.1,7k580.2,b5xg0.1,7k580.2,96x1g0.1,4qak0.2|CST6"),
  ("America/Thule", "-16508,0;-10800,1;-14400,0|-rvuj9g.2,12yzilg.1,9cyk0.2,9d440.1,9cyk0.2,9q2s0.1,ast80.2,7x9g0.1,ast80.2,7x9g0.1,ast80.2,8a840.1,afuk0.2,8a840.1,afuk0.2,8a840.1,afuk0.2,8a840.1,ast80.2,7x9g0.1,ast80.2,7x9g0.1,ast80.2,8a840.1,afuk0.2,8a840.1,afuk0.2,8a840.1,ast80.2,7x9g0.1,ast80.2,7x9g0.1,ast80.2,6udg0.1,c8nw0.2,6hes0.1,c8nw0.2,6hes0.1,c8nw0.2,6udg0.1,c8nw0.2,6hes0.1,c8nw0.2,6hes0.1,c8nw0.2,6hes0.1,c8nw0.2,6hes0.1,c8nw0.2,6hes0.1,c8nw0.2,6udg0.1,c8nw0.2,6hes0.1,c8nw0.2,6hes0.1,c8nw0.2,6hes0.1,c8nw0.2,6hes0.1,c8nw0.2,6udg0.1,c8nw0.2,6hes0.1,c8nw0.2,6hes0.1,c8nw0.2,6hes0.1,c8nw0.2,6hes0.1,c8nw0.2,6hes0.1,c8nw0.2,6udg0.1,c8nw0.2,6hes0.1,c8nw0.2,6hes0.1,c8nw0.2,6hes0.1,c8nw0.2,6hes0.1,c8nw0.2,6udg0.1,c8nw0.2,6hes0.1,c8nw0.2,6hes0.1,c8nw0.2,6hes0.1,c8nw0.2,6hes0.1,c8nw0.2,6hes0.1,c8nw0.2|AST4ADT,M3.2.0,M11.1.0"),
  ("America/Tijuana", "-28084,0;-25200,0;-28800,0;-25200,0;-25200,1;-25200,1;-25200,1;-28800,0|-p1u4k0.1,11juo0.2,1sm040.3,1si580.2,71s40.4,9cyk0.2,5iidg0.5,1q6700.6,4qzk0.2,18uw40.4,eluk0.2,oa5g0.4,7iak0.2,b6300.4,7x3w0.2,asys0.4,7x3w0.2,tiyo0.4,7x6o0.2,asw00.4,7x6o0.2,b5uo0.4,7x6o0.2,asw00.4,7x6o0.2,asw00.4,7x6o0.2,asw00.4,7x6o0.2,asw00.4,7x6o0.2,84qys0.4,9px80.2,905g0.4,9px80.2,9d440.4,9cyk0.2,9d440.4,9cyk0.2,9d440.4,9cyk0.2,9d440.4,9cyk0.2,9d440.4,9px80.2,905g0.4,9px80.2,9d440.4,9cyk0.2,9d440.4,9cyk0.2,9d440.4,9cyk0.2,8a840.4,afuk0.2,8a840.4,ast80.2,7x9g0.4,ast80.2,7x9g0.4,ast80.2,8a840.4,afuk0.2,8a840.4,afuk0.2,8a840.4,ast80.2,7x9g0.4,ast80.2,7x9g0.4,ast80.2,8a840.4,afuk0.2,8a840.4,afuk0.2,8a840.4,afuk0.2,8a840.4,ast80.2,7x9g0.4,ast80.2,7x9g0.4,ast80.2,8a840.4,afuk0.2,8a840.4,afuk0.2,8a840.4,ast80.2,7x9g0.4,ast80.2,7x9g0.4,ast80.2,7x9g0.4,ast80.2,8a840.4,afuk0.2,8a840.4,afuk0.2,77c40.4,c8nw0.2,6hes0.4,c8nw0.2,6hes0.4,c8nw0.2,6hes0.4,c8nw0.2,6hes0.4,c8nw0.2,6hes0.4,c8nw0.2,6udg0.4,c8nw0.2,6hes0.4,c8nw0.2,6hes0.4,c8nw0.2,6hes0.4,c8nw0.2,6hes0.4,c8nw0.2,6udg0.4,c8nw0.2,6hes0.4,c8nw0.2,6hes0.4,c8nw0.2,6hes0.4,c8nw0.2,6hes0.4,c8nw0.2,6hes0.4,c8nw0.2,6udg0.4,c8nw0.2,6hes0.4,c8nw0.2,6hes0.4,c8nw0.2,6hes0.4,c8nw0.2,6hes0.4,c8nw0.2,6udg0.4,c8nw0.2,6hes0.4,c8nw0.2,6hes0.4,c8nw0.2,6hes0.4,c8nw0.2,6hes0.4,c8nw0.2,6hes0.4,c8nw0.2|PST8PDT,M3.2.0,M11.1.0"),
  ("America/Toronto", "-19052,0;-14400,1;-18000,0;-14400,1;-14400,1|-1353das.2,c5efes.1,a2vw0.2,7yx60.1,aqzy0.2,9q8c0.1,7jzo0.2,bw0c0.1,6bp80.2,cedg0.1,6h980.2,c8tg0.1,6h980.2,bvus0.1,776k0.2,biw40.1,776k0.2,biw40.1,776k0.2,biw40.1,7k580.2,b5xg0.1,7x3w0.2,asys0.1,7x3w0.2,asys0.1,7x3w0.2,asys0.1,7x3w0.2,b5xg0.1,7k580.2,b5xg0.1,7x3w0.2,asys0.1,7x3w0.2,asys0.1,7x3w0.2,asys0.1,7x3w0.2,asys0.1,7x3w0.2,asys0.1,7x3w0.2,b5xg0.1,7k580.2,b5xg0.1,xjeo0.3,1tzb40.4,2dq40.2,asys0.1,7x3w0.2,asys0.1,7x3w0.2,asys0.1,7x3w0.2,asys0.1,b5rw0.2,7x9g0.1,ast80.2,7x9g0.1,7x3w0.2,asys0.1,7x3w0.2,asys0.1,7x3w0.2,asys0.1,7x3w0.2,asys0.1,7x3w0.2,b5xg0.1,7x3w0.2,asys0.1,9cyk0.2,9d440.1,9cyk0.2,9d440.1,9cyk0.2,9d440.1,9px80.2,9d440.1,9cyk0.2,9d440.1,9cyk0.2,9d440.1,9cyk0.2,9d440.1,9cyk0.2,9d440.1,9px80.2,905g0.1,9px80.2,9d440.1,9cyk0.2,9d440.1,9cyk0.2,9d440.1,9cyk0.2,9d440.1,9cyk0.2,9d440.1,9px80.2,9d440.1,9cyk0.2,9d440.1,9cyk0.2,9d440.1,9cyk0.2,9d440.1,9cyk0.2,9d440.1,9px80.2,905g0.1,9px80.2,9d440.1,9cyk0.2,9d440.1,9cyk0.2,9d440.1,9cyk0.2,9d440.1,9cyk0.2,9d440.1,9px80.2,905g0.1,9px80.2,9d440.1,9cyk0.2,9d440.1,9cyk0.2,9d440.1,9cyk0.2,8a840.1,afuk0.2,8a840.1,ast80.2,7x9g0.1,ast80.2,7x9g0.1,ast80.2,8a840.1,afuk0.2,8a840.1,afuk0.2,8a840.1,ast80.2,7x9g0.1,ast80.2,7x9g0.1,ast80.2,8a840.1,afuk0.2,8a840.1,afuk0.2,8a840.1,afuk0.2,8a840.1,ast80.2,7x9g0.1,ast80.2,7x9g0.1,ast80.2,8a840.1,afuk0.2,8a840.1,afuk0.2,8a840.1,ast80.2,7x9g0.1,ast80.2,7x9g0.1,ast80.2,6udg0.1,c8nw0.2,6hes0.1,c8nw0.2,6hes0.1,c8nw0.2,6udg0.1,c8nw0.2,6hes0.1,c8nw0.2,6hes0.1,c8nw0.2,6hes0.1,c8nw0.2,6hes0.1,c8nw0.2,6hes0.1,c8nw0.2,6udg0.1,c8nw0.2,6hes0.1,c8nw0.2,6hes0.1,c8nw0.2,6hes0.1,c8nw0.2,6hes0.1,c8nw0.2,6udg0.1,c8nw0.2,6hes0.1,c8nw0.2,6hes0.1,c8nw0.2,6hes0.1,c8nw0.2,6hes0.1,c8nw0.2,6hes0.1,c8nw0.2,6udg0.1,c8nw0.2,6hes0.1,c8nw0.2,6hes0.1,c8nw0.2,6hes0.1,c8nw0.2,6hes0.1,c8nw0.2,6udg0.1,c8nw0.2,6hes0.1,c8nw0.2,6hes0.1,c8nw0.2,6hes0.1,c8nw0.2,6hes0.1,c8nw0.2,6hes0.1,c8nw0.2|EST5EDT,M3.2.0,M11.1.0"),
  ("America/Tortola", "-15508,0;-14400,0|-uj7w18.1|AST4"),
  ("America/Vancouver", "-29548,0;-25200,1;-28800,0;-25200,1;-25200,1|-18vrvv8.2,hw36b8.1,a2vw0.2,c5jxg0.3,1tz2s0.4,2dyg0.2,asys0.1,7x3w0.2,asys0.1,7x3w0.2,asys0.1,7x3w0.2,asys0.1,7x3w0.2,b5xg0.1,7k580.2,b5xg0.1,7x3w0.2,asys0.1,7x3w0.2,asys0.1,7x3w0.2,asys0.1,7x3w0.2,asys0.1,7x3w0.2,b5xg0.1,7x3w0.2,asys0.1,7x3w0.2,asys0.1,7x3w0.2,asys0.1,7x3w0.2,asys0.1,7x3w0.2,b5xg0.1,7k580.2,b5xg0.1,9cyk0.2,9d440.1,9cyk0.2,9d440.1,9cyk0.2,9d440.1,9px80.2,905g0.1,9px80.2,9d440.1,9cyk0.2,9d440.1,9cyk0.2,9d440.1,9cyk0.2,9d440.1,9cyk0.2,9d440.1,9px80.2,9d440.1,9cyk0.2,9d440.1,9cyk0.2,9d440.1,9cyk0.2,9d440.1,9cyk0.2,9d440.1,9px80.2,905g0.1,9px80.2,9d440.1,9cyk0.2,9d440.1,9cyk0.2,9d440.1,9cyk0.2,9d440.1,9cyk0.2,9d440.1,9px80.2,905g0.1,9px80.2,9d440.1,9cyk0.2,9d440.1,9cyk0.2,9d440.1,9cyk0.2,8a840.1,afuk0.2,8a840.1,ast80.2,7x9g0.1,ast80.2,7x9g0.1,ast80.2,8a840.1,afuk0.2,8a840.1,afuk0.2,8a840.1,ast80.2,7x9g0.1,ast80.2,7x9g0.1,ast80.2,8a840.1,afuk0.2,8a840.1,afuk0.2,8a840.1,afuk0.2,8a840.1,ast80.2,7x9g0.1,ast80.2,7x9g0.1,ast80.2,8a840.1,afuk0.2,8a840.1,afuk0.2,8a840.1,ast80.2,7x9g0.1,ast80.2,7x9g0.1,ast80.2,6udg0.1,c8nw0.2,6hes0.1,c8nw0.2,6hes0.1,c8nw0.2,6udg0.1,c8nw0.2,6hes0.1,c8nw0.2,6hes0.1,c8nw0.2,6hes0.1,c8nw0.2,6hes0.1,c8nw0.2,6hes0.1,c8nw0.2,6udg0.1,c8nw0.2,6hes0.1,c8nw0.2,6hes0.1,c8nw0.2,6hes0.1,c8nw0.2,6hes0.1,c8nw0.2,6udg0.1,c8nw0.2,6hes0.1,c8nw0.2,6hes0.1,c8nw0.2,6hes0.1,c8nw0.2,6hes0.1,c8nw0.2,6hes0.1,c8nw0.2,6udg0.1,c8nw0.2,6hes0.1,c8nw0.2,6hes0.1,c8nw0.2,6hes0.1,c8nw0.2,6hes0.1,c8nw0.2,6udg0.1,c8nw0.2,6hes0.1,c8nw0.2,6hes0.1,c8nw0.2,6hes0.1,c8nw0.2,6hes0.1,c8nw0.2,6hes0.1,c8nw0.2|PST8PDT,M3.2.0,M11.1.0"),
  ("America/Whitehorse", "-32412,0;-28800,1;-32400,0;-28800,1;-28800,1;-25200,1;-28800,0;-25200,1;-25200,0|-1079tno.2,97l6vo.1,a2vw0.2,asys0.1,882c0.2,bmiwc0.3,1tz000.4,2e180.2,a7n3w0.5,9q000.2,64dc0.6,7e3pg0.7,9cyk0.6,9d440.7,9cyk0.6,9d440.7,9px80.6,905g0.7,9px80.6,9d440.7,9cyk0.6,9d440.7,9cyk0.6,9d440.7,9cyk0.6,8a840.7,afuk0.6,8a840.7,ast80.6,7x9g0.7,ast80.6,7x9g0.7,ast80.6,8a840.7,afuk0.6,8a840.7,afuk0.6,8a840.7,ast80.6,7x9g0.7,ast80.6,7x9g0.7,ast80.6,8a840.7,afuk0.6,8a840.7,afuk0.6,8a840.7,afuk0.6,8a840.7,ast80.6,7x9g0.7,ast80.6,7x9g0.7,ast80.6,8a840.7,afuk0.6,8a840.7,afuk0.6,8a840.7,ast80.6,7x9g0.7,ast80.6,7x9g0.7,ast80.6,6udg0.7,c8nw0.6,6hes0.7,c8nw0.6,6hes0.7,c8nw0.6,6udg0.7,c8nw0.6,6hes0.7,c8nw0.6,6hes0.7,c8nw0.6,6hes0.7,c8nw0.6,6hes0.7,c8nw0.6,6hes0.7,c8nw0.6,6udg0.7,c8nw0.6,6hes0.7,c8nw0.6,6hes0.7,c8nw0.6,6hes0.7,c8nw0.6,6hes0.7,c8ic0.8|MST7"),
  ("America/Winnipeg", "-23316,0;-18000,1;-21600,0;-18000,1;-18000,1;-18000,1;-21600,0|-171bfcc.2,f0j80c.1,7k580.2,tj700.1,a2vw0.2,9ok840.1,6u7w0.2,2a5hg0.3,1tz8c0.4,2dsw0.2,biw40.1,7x3w0.2,a31g0.1,7x3w0.2,asys0.1,7x3w0.2,asys0.1,7x3w0.2,b7s40.1,7tek0.2,autg0.1,7x3w0.2,asys0.1,7x3w0.2,asys0.1,7x3w0.2,asys0.1,7x3w0.2,asys0.1,7x3w0.2,b5xg0.1,7x3w0.2,asys0.1,7x3w0.2,asys0.1,7x3w0.2,asys0.1,9cyk0.2,9d440.1,7x3w0.2,1cm2s0.1,7k580.2,1cm2s0.5,9q000.6,9d1c0.5,9d1c0.6,9d1c0.5,9d1c0.6,9d1c0.5,9d1c0.6,9d1c0.5,9d1c0.6,9d1c0.5,9q000.6,9d1c0.5,9d1c0.6,9d1c0.5,9d1c0.6,9d1c0.5,9d1c0.6,9d1c0.5,9d1c0.6,9d1c0.5,9q000.6,902o0.5,9q000.6,9d1c0.5,9d1c0.6,9d1c0.5,9d1c0.6,9d1c0.5,9d1c0.6,9d1c0.5,9d1c0.6,9d1c0.5,9q000.6,902o0.5,9q000.6,9d1c0.5,9d1c0.6,9d1c0.5,9d1c0.6,9d1c0.5,9d1c0.6,8a5c0.5,afxc0.6,8a5c0.5,asw00.6,7x6o0.5,asw00.6,7x6o0.5,asw00.6,8a5c0.5,afxc0.6,8a5c0.5,afxc0.6,8a5c0.5,asw00.6,7x6o0.5,asw00.6,7x6o0.5,asw00.6,8a5c0.5,afxc0.6,8a5c0.5,afxc0.6,8a5c0.5,afxc0.6,8a5c0.5,asw00.6,7x6o0.5,asw00.6,7x6o0.5,asw00.6,8a5c0.5,afxc0.6,8a5c0.5,afxc0.6,8a5c0.5,asw00.6,7x6o0.5,asw00.6,7x6o0.1,ast80.2,6udg0.1,c8nw0.2,6hes0.1,c8nw0.2,6hes0.1,c8nw0.2,6udg0.1,c8nw0.2,6hes0.1,c8nw0.2,6hes0.1,c8nw0.2,6hes0.1,c8nw0.2,6hes0.1,c8nw0.2,6hes0.1,c8nw0.2,6udg0.1,c8nw0.2,6hes0.1,c8nw0.2,6hes0.1,c8nw0.2,6hes0.1,c8nw0.2,6hes0.1,c8nw0.2,6udg0.1,c8nw0.2,6hes0.1,c8nw0.2,6hes0.1,c8nw0.2,6hes0.1,c8nw0.2,6hes0.1,c8nw0.2,6hes0.1,c8nw0.2,6udg0.1,c8nw0.2,6hes0.1,c8nw0.2,6hes0.1,c8nw0.2,6hes0.1,c8nw0.2,6hes0.1,c8nw0.2,6udg0.1,c8nw0.2,6hes0.1,c8nw0.2,6hes0.1,c8nw0.2,6hes0.1,c8nw0.2,6hes0.1,c8nw0.2,6hes0.1,c8nw0.2|CST6CDT,M3.2.0,M11.1.0"),
  ("America/Yakutat", "52865,0;-33535,0;-32400,0;-28800,1;-28800,1;-28800,1;-28800,1;-32400,0|-1hc7qjz.1,h4yv3i.2,ln720h.3,1tz000.4,2e180.2,cawis0.5,9cyk0.2,9d440.5,9cyk0.2,9d440.5,9px80.2,9d440.5,9cyk0.2,9d440.5,9cyk0.2,3lpg0.5,f4d80.2,64g40.5,clmk0.2,9d440.5,9px80.2,905g0.5,9px80.2,9d440.5,9cyk0.2,9d440.5,9cyk0.2,9d440.5,9cyk0.2,9d440.5,9cyk0.2,9d440.5,9px80.2,905g0.5,9px80.2,1lbw0.7,7rs80.6,9cyk0.7,9d440.6,9cyk0.7,9d440.6,9cyk0.7,8a840.6,afuk0.7,8a840.6,ast80.7,7x9g0.6,ast80.7,7x9g0.6,ast80.7,8a840.6,afuk0.7,8a840.6,afuk0.7,8a840.6,ast80.7,7x9g0.6,ast80.7,7x9g0.6,ast80.7,8a840.6,afuk0.7,8a840.6,afuk0.7,8a840.6,afuk0.7,8a840.6,ast80.7,7x9g0.6,ast80.7,7x9g0.6,ast80.7,8a840.6,afuk0.7,8a840.6,afuk0.7,8a840.6,ast80.7,7x9g0.6,ast80.7,7x9g0.6,ast80.7,6udg0.6,c8nw0.7,6hes0.6,c8nw0.7,6hes0.6,c8nw0.7,6udg0.6,c8nw0.7,6hes0.6,c8nw0.7,6hes0.6,c8nw0.7,6hes0.6,c8nw0.7,6hes0.6,c8nw0.7,6hes0.6,c8nw0.7,6udg0.6,c8nw0.7,6hes0.6,c8nw0.7,6hes0.6,c8nw0.7,6hes0.6,c8nw0.7,6hes0.6,c8nw0.7,6udg0.6,c8nw0.7,6hes0.6,c8nw0.7,6hes0.6,c8nw0.7,6hes0.6,c8nw0.7,6hes0.6,c8nw0.7,6hes0.6,c8nw0.7,6udg0.6,c8nw0.7,6hes0.6,c8nw0.7,6hes0.6,c8nw0.7,6hes0.6,c8nw0.7,6hes0.6,c8nw0.7,6udg0.6,c8nw0.7,6hes0.6,c8nw0.7,6hes0.6,c8nw0.7,6hes0.6,c8nw0.7,6hes0.6,c8nw0.7,6hes0.6,c8nw0.7|AKST9AKDT,M3.2.0,M11.1.0"),
  ("Antarctica/Casey", "0,0;28800,0;39600,0;28800,0|-irxc0.1,lag4o0.2,73bo0.1,uz1o0.2,60l80.3,2fnh80.2,pz9g0.1,at4c0.2,89u80.1,acgc0.2,80no0.1,asw1o.2,89wyc.1,ag5po.2,89wyc.1,ag5po.2,84lac.1,7rcf7j.1|<+08>-8"),
  ("Antarctica/Davis", "0,0;25200,0;18000,0;25200,0|-6rmdc0.1,42jdw0.0,27wgs0.1,l8uss0.2,7eqs0.3,unmk0.2,60qs0.3,dismrj.3|<+07>-7"),
  ("Antarctica/DumontDUrville", "0,0;36000,0|-c05eo0.1,2mks80.0,2i72g0.1,16dxkzj.1|<+10>-10"),
  ("Antarctica/Macquarie", "0,0;36000,0;39600,1;36000,0;0,0;39600,1;36000,0|-10mb9c0.1,8ts4g0.2,902o0.3,11wns0.4,f4kh40.1,a6p8g0.5,9d1c0.3,asw00.5,6uao0.3,bvs00.5,6uao0.3,bvs00.5,779c0.3,bvs00.5,64dc0.3,clpc0.5,6hc00.3,c8qo0.5,6hc00.3,c8qo0.5,6hc00.3,c8qo0.5,6uao0.3,c8qo0.5,6hc00.3,c8qo0.5,6hc00.3,c8qo0.5,6hc00.3,c8qo0.5,6hc00.3,c8qo0.5,6hc00.3,c8qo0.5,7x6o0.3,b5uo0.5,7k800.3,b5uo0.5,6hc00.3,c8qo0.5,6hc00.3,c8qo0.5,6hc00.3,bvs00.5,7k800.3,bitc0.5,7k800.3,bitc0.5,779c0.3,bitc0.5,779c0.3,bitc0.5,7x6o0.3,9q000.5,902o0.3,9q000.5,902o0.3,9q000.5,902o0.3,9q000.5,902o0.3,9q000.5,9d1c0.3,9q000.5,902o0.3,9q000.5,902o0.3,9q000.5,902o0.3,9q000.5,902o0.3,7x6o0.5,asw00.3,a2yo0.5,902o0.3,9q000.5,902o0.3,9q000.5,902o0.3,9q000.5,902o0.3,9q000.5,9d1c0.3,9d1c0.5,902o0.3,a2yo0.5,9d1c0.3,9d1c0.5,9d1c0.3,9d1c0.5,s3400.3,9d1c0.5,9d1c0.3,9q000.5,9d1c0.3,9d1c0.5,9d1c0.3,9d1c0.5,9d1c0.3,9d1c0.5,9d1c0.3,9d1c0.5,9d1c0.3,9d1c0.5,9d1c0.3,9q000.5,9d1c0.3,9d1c0.5,9d1c0.3,9d1c0.5,9d1c0.3,9d1c0.5,9d1c0.3,9d1c0.5,9d1c0.3,9d1c0.5,9q000.3,9d1c0.5,9d1c0.3,9d1c0.5,9d1c0.3,9d1c0.5,9d1c0.3,9d1c0.5,9d1c0.3,9d1c0.5,9d1c0.3,9q000.5,9d1c0.3,9d1c0.5,9d1c0.3,9d1c0.5,9d1c0.3,9d1c0.5,9d1c0.3,9d1c0.5,9d1c0.3,9d1c0.5,9d1c0.3,9q000.5,9d1c0.3,9d1c0.5,9d1c0.3,9d1c0.5|AEST-10AEDT,M10.1.0,M4.1.0/3"),
  ("Antarctica/Mawson", "0,0;21600,0;18000,0|-8aelc0.1,t22y80.2,eqvo3j.2|<+05>-5"),
  ("Antarctica/McMurdo", "0,0;46800,1;43200,0;43200,0|-7b2dc0.3,9txtk0.1,5reo0.2,clpc0.1,6uao0.2,c8qo0.1,6hc00.2,c8qo0.1,6hc00.2,c8qo0.1,6hc00.2,c8qo0.1,6hc00.2,c8qo0.1,6hc00.2,c8qo0.1,6uao0.2,c8qo0.1,6hc00.2,c8qo0.1,6hc00.2,c8qo0.1,6hc00.2,c8qo0.1,6hc00.2,c8qo0.1,6hc00.2,c8qo0.1,6uao0.2,c8qo0.1,6hc00.2,b5uo0.1,8a5c0.2,afxc0.1,8a5c0.2,afxc0.1,8a5c0.2,afxc0.1,8n400.2,a2yo0.1,8n400.2,a2yo0.1,8n400.2,a2yo0.1,8n400.2,afxc0.1,8a5c0.2,afxc0.1,8a5c0.2,afxc0.1,8n400.2,a2yo0.1,8n400.2,a2yo0.1,8n400.2,afxc0.1,8a5c0.2,afxc0.1,8a5c0.2,afxc0.1,8n400.2,a2yo0.1,8n400.2,a2yo0.1,8n400.2,a2yo0.1,8n400.2,a2yo0.1,9q000.2,902o0.1,9q000.2,902o0.1,9q000.2,902o0.1,9q000.2,902o0.1,9q000.2,9d1c0.1,9q000.2,902o0.1,9q000.2,902o0.1,9q000.2,902o0.1,9q000.2,902o0.1,9q000.2,902o0.1,9q000.2,9d1c0.1,9q000.2,902o0.1,9q000.2,902o0.1,9q000.2,902o0.1,9q000.2,902o0.1,9q000.2,902o0.1,a2yo0.2,902o0.1,9q000.2,902o0.1,9q000.2,902o0.1,9q000.2,902o0.1,9q000.2,902o0.1,9q000.2,9d1c0.1,9q000.2,902o0.1,9q000.2,902o0.1,9q000.2,902o0.1,9q000.2,902o0.1,9q000.2,902o0.1,9q000.2,9d1c0.1,9q000.2,902o0.1,9q000.2,902o0.1|NZST-12NZDT,M9.5.0,M4.1.0/3"),
  ("Antarctica/Palmer", "0,0;-14400,0;-10800,1;-7200,1;-10800,0;-10800,1;-14400,0;-10800,0|-2lxhc0.2,31ho0.1,bqas0.2,71mk0.1,bqas0.2,8ovw0.1,9d440.2,9px80.1,9d440.2,9cyk0.1,9d440.4,28t6k0.3,51ek0.4,46b6s0.1,8c2s0.5,7x3w0.6,asys0.5,7x3w0.6,b5xg0.5,7k580.6,b5xg0.5,7k580.6,b5xg0.5,9cyk0.6,9d440.5,7x3w0.6,asys0.5,7x3w0.6,b5xg0.5,7k580.6,9q2s0.5,8zzw0.6,b5xg0.5,7x3w0.6,asys0.5,7x3w0.6,asys0.5,7x3w0.6,asys0.5,7x3w0.6,b5xg0.5,7k580.6,b5xg0.5,8n180.6,a31g0.5,7x3w0.6,a31g0.5,9px80.6,9q2s0.5,7x3w0.6,b5xg0.5,7k580.6,b5xg0.5,7k580.6,b5xg0.5,7k580.6,b5xg0.5,7x3w0.6,asys0.5,7x3w0.6,asys0.5,7x3w0.6,b5xg0.5,7k580.6,b5xg0.5,8n180.6,a31g0.5,7x3w0.6,asys0.5,8zzw0.6,9q2s0.5,ast80.6,5eis0.5,cyl80.6,6hes0.5,c8nw0.6,6udg0.5,bvp80.6,6udg0.5,vonw0.6,4olg0.5,5rbw0.4,b0wwnj.4|<-03>3"),
  ("Antarctica/Rothera", "0,0;-10800,0|3lxs00.1,vwm8zj.1|<-03>3"),
  ("Antarctica/Syowa", "0,0;10800,0|-6qsqo0.1,169crnj.1|<+03>-3"),
  ("Antarctica/Troll", "0,0;7200,1;0,0;0,0|ibruo0.3,27pg0.1,b5uo0.2,7k800.1,b5uo0.2,7k800.1,b5uo0.2,7x6o0.1,asw00.2,7x6o0.1,asw00.2,7x6o0.1,b5uo0.2,7k800.1,b5uo0.2,7k800.1,b5uo0.2,7x6o0.1,asw00.2,7x6o0.1,asw00.2,7x6o0.1,asw00.2,7x6o0.1,b5uo0.2,7k800.1,b5uo0.2,7k800.1,b5uo0.2,7x6o0.1,asw00.2,7x6o0.1,asw00.2,7x6o0.1,b5uo0.2,7k800.1,b5uo0.2,7k800.1,b5uo0.2,7x6o0.1,asw00.2,7x6o0.1,asw00.2,7x6o0.1,asw00.2,7x6o0.1,b5uo0.2,7k800.1,b5uo0.2,7k800.1,b5uo0.2,7x6o0.1,asw00.2,7x6o0.1,asw00.2,7x6o0.1,b5uo0.2,7k800.1,b5uo0.2,7k800.1,b5uo0.2,7k800.1,b5uo0.2,7x6o0.1,asw00.2,7x6o0.1,asw00.2,4ffjj.2|<+00>0<+02>-2,M3.5.0/1,M10.5.0/3"),
  ("Antarctica/Vostok", "0,0;25200,0;18000,0|-6aaao0.1,iushw0.0,e23g0.1,f79gs0.2,7cq9jj.2|<+05>-5"),
  ("Asia/Aden", "10794,0;10800,0|-afs0bu.1,19yc1bd.1|<+03>-3"),
  ("Asia/Almaty", "18468,0;18000,0;25200,1;21600,0;21600,0;25200,1;21600,1;18000,0;25200,1|-nu1a90.1,37a0d0.3,qi27w0.2,9et80.3,9d440.2,9et80.3,9d440.2,9et80.3,9eys0.2,9d6w0.4,9d1c0.5,9d1c0.4,9d1c0.5,9d1c0.4,9d1c0.5,9d1c0.4,9d1c0.5,9d1c0.4,9d1c0.5,9d1c0.4,9d1c0.5,9q000.4,9d1c0.6,9d440.7,5reo0.4,3ljw0.5,9d1c0.4,9d1c0.5,9d1c0.4,9d1c0.5,9d1c0.4,9d1c0.5,9d1c0.4,9q000.5,asw00.4,7x6o0.5,asw00.4,7x6o0.5,asw00.4,7x6o0.5,b5uo0.4,7k800.5,b5uo0.4,7k800.5,b5uo0.4,7x6o0.5,asw00.4,7x6o0.5,asw00.4,7x6o0.5,b5uo0.4,a37rs0.1,78xazj.1|<+05>-5"),
  ("Asia/Amman", "8624,0;10800,1;7200,0;7200,0;10800,1;10800,0|-kcrtbk.2,m566fk.1,60l80.2,awo40.1,7v980.2,awo40.1,7v980.2,ayis0.1,9gnw0.2,9b9g0.1,7v980.2,autg0.1,7v980.2,3e6840.1,9et80.2,9io40.1,9cyk0.2,9d440.1,9cyk0.2,9d440.1,9px80.2,ayis0.1,7rjw0.2,ag040.1,8a2k0.2,9zc40.1,8drw0.2,a31g0.1,8zzw0.2,9d440.1,9cyk0.2,9d440.1,8n180.2,ag040.1,8a5c0.3,afxc0.1,8n400.3,a2yo0.1,8n400.3,a2yo0.1,8n400.3,epmo0.4,4deo0.3,9o5c0.4,9ew00.3,9b6o0.4,9ew00.3,9d1c0.1,9d1c0.3,9d1c0.1,asw00.3,7x6o0.1,afxc0.3,8n400.1,9d1c0.3,9d1c0.1,asw00.3,7x6o0.1,asw00.3,7x6o0.1,b5uo0.3,7k800.1,b5uo0.3,7k800.1,b5uo0.3,7x6o0.1,asw00.3,7x6o0.1,wel80.2,51k40.1,b5uo0.3,7k800.1,b5uo0.3,7x6o0.1,asw00.3,7x6o0.1,asw00.3,7x6o0.1,asw00.3,7x6o0.1,asw00.3,7x6o0.1,b5uo0.3,7k800.1,b5uo0.3,64dc0.1,clpc0.5,7y4ejj.5|<+03>-3"),
  ("Asia/Anadyr", "42596,0;43200,0;50400,1;46800,0;46800,1;43200,0;46800,1;43200,1;39600,0;43200,0|-nu1sv8.1,379zj8.3,qi27w0.2,9et80.3,9d440.4,9ew00.1,9d440.4,9et80.1,9eys0.4,9d6w0.5,9d1c0.6,9d1c0.5,9d1c0.6,9d1c0.5,9d1c0.6,9d1c0.5,9d1c0.6,9d1c0.5,9d1c0.6,9d1c0.5,9d1c0.6,9q000.5,9d1c0.7,9d440.8,5reo0.5,3ljw0.6,9d1c0.5,9d1c0.6,9d1c0.5,9d1c0.6,9d1c0.5,9d1c0.6,9d1c0.5,9q000.6,asw00.5,7x6o0.6,asw00.5,7x6o0.6,asw00.5,7x6o0.6,b5uo0.5,7k800.6,b5uo0.5,7k800.6,b5uo0.5,7x6o0.6,asw00.5,7x6o0.6,asw00.5,7x6o0.6,b5uo0.5,7k800.6,b5uo0.5,7k800.6,b5uo0.5,7k800.6,b5uo0.5,7x6o0.6,asw00.5,7x6o0.6,asw00.5,7x6o0.7,b5xg0.8,7k800.5,dzvtzj.5|<+12>-12"),
  ("Asia/Aqtau", "12064,0;14400,0;18000,0;21600,0;21600,1;18000,0;21600,1;18000,1;14400,0;18000,0|-nu15b4.1,379y74.2,qrh3w0.3,9cyk0.4,9ew00.2,9d440.4,9et80.2,9eys0.4,9d6w0.5,9d1c0.6,9d1c0.5,9d1c0.6,9d1c0.5,9d1c0.6,9d1c0.5,9d1c0.6,9d1c0.5,9d1c0.6,9d1c0.5,9d1c0.6,9q000.5,9d1c0.7,9d440.8,5reo0.5,3ljw0.6,9d1c0.5,9d1c0.6,9d1c0.5,9d1c0.6,9d1c0.8,9d440.7,9d1c0.8,9q000.7,asw00.8,7x6o0.7,asw00.8,7x6o0.7,asw00.8,7x6o0.7,b5uo0.8,7k800.7,b5uo0.8,7k800.7,b5uo0.8,7x6o0.7,asw00.8,7x6o0.7,asw00.8,7x6o0.7,b5uo0.5,hc4x7j.5|<+05>-5"),
  ("Asia/Aqtobe", "13720,0;14400,0;18000,0;21600,1;21600,0;18000,0;21600,1;18000,1;14400,0;21600,1;18000,0|-nu16l4.1,379zh4.2,qi27w0.3,9et80.4,9d1c0.3,9ew00.2,9d440.3,9et80.2,9eys0.3,9d6w0.5,9d1c0.6,9d1c0.5,9d1c0.6,9d1c0.5,9d1c0.6,9d1c0.5,9d1c0.6,9d1c0.5,9d1c0.6,9d1c0.5,9d1c0.6,9q000.5,9d1c0.7,9d440.8,5reo0.5,3ljw0.6,9d1c0.5,9d1c0.6,9d1c0.5,9d1c0.6,9d1c0.5,9d1c0.6,9d1c0.5,9q000.6,asw00.5,7x6o0.6,asw00.5,7x6o0.6,asw00.5,7x6o0.6,b5uo0.5,7k800.6,b5uo0.5,7k800.6,b5uo0.5,7x6o0.6,asw00.5,7x6o0.6,asw00.5,7x6o0.6,b5uo0.5,hc4zzj.5|<+05>-5"),
  ("Asia/Ashgabat", "14012,0;14400,0;21600,1;18000,0;18000,0;21600,1;18000,1;14400,0;18000,0|-nu16t8.1,379zp8.3,qi27w0.2,9et80.3,9d440.2,9et80.3,9d440.2,9et80.3,9eys0.2,9d6w0.4,9d1c0.5,9d1c0.4,9d1c0.5,9d1c0.4,9d1c0.5,9d1c0.4,9d1c0.5,9d1c0.4,9d1c0.5,9d1c0.4,9d1c0.5,9q000.4,9d1c0.6,9d440.7,5reo0.3,o0b7vj.3|<+05>-5"),
  ("Asia/Atyrau", "12464,0;10800,0;18000,0;21600,0;21600,1;18000,0;21600,1;18000,1;14400,0;18000,0|-nu15m8.1,37a1a8.2,qrh140.3,9cyk0.4,9ew00.2,9d440.4,9et80.2,9eys0.4,9d6w0.5,9d1c0.6,9d1c0.5,9d1c0.6,9d1c0.5,9d1c0.6,9d1c0.5,9d1c0.6,9d1c0.5,9d1c0.6,9d1c0.5,9d1c0.6,9q000.5,9d1c0.7,9d440.8,5reo0.5,3ljw0.6,9d1c0.5,9d1c0.6,9d1c0.5,9d1c0.6,9d1c0.5,9d1c0.6,9d1c0.5,9q000.6,asw00.5,7x6o0.6,asw00.5,7x6o0.6,asw00.5,7x6o0.7,b5xg0.8,7k800.7,b5uo0.8,7k800.7,b5uo0.8,7x6o0.7,asw00.8,7x6o0.7,asw00.8,7x6o0.7,b5uo0.5,hc4x7j.5|<+05>-5"),
  ("Asia/Baghdad", "10660,0;10656,0;10800,0;14400,1;10800,0;14400,1|-15r1hk4.1,em11c4.2,xkn3w0.3,7v980.2,9b9g0.3,9gnw0.2,9eys0.3,9et80.2,9d440.3,9b9g0.4,9d1c0.5,9d1c0.4,9d1c0.5,9d1c0.4,9d1c0.5,9d1c0.4,9d1c0.5,9d1c0.4,9d1c0.5,9q000.4,9f1k0.5,9ew00.4,9ew00.5,9ew00.4,9d1c0.5,9ew00.4,9d1c0.5,9ew00.4,9d1c0.5,9ew00.4,9ew00.5,9ew00.4,9d1c0.5,9ew00.4,9d1c0.5,9ew00.4,9d1c0.5,9ew00.4,9ew00.5,9ew00.4,9d1c0.5,9ew00.4,9d1c0.5,9ew00.4,9d1c0.5,9ew00.4,9ew00.5,9ew00.4,9d1c0.5,9ew00.4,9d1c0.5,9ew00.4,9d1c0.5,9ew00.4,ftcjnj.4|<+03>-3"),
  ("Asia/Bahrain", "12140,0;12600,0;14400,0;10800,0|-eukpd8.1,1a1eb8.2,etwby0.3,y9703j.3|<+03>-3"),
  ("Asia/Baku", "11964,0;10800,0;18000,1;14400,0;14400,0;18000,1;14400,1;10800,0;18000,1;14400,0|-nu158c.1,h4tkwc.3,ckinw0.2,9et80.3,9d440.2,9et80.3,9d440.2,9et80.3,9eys0.2,9d6w0.4,9d1c0.5,9d1c0.4,9d1c0.5,9d1c0.4,9d1c0.5,9d1c0.4,9d1c0.5,9d1c0.4,9d1c0.5,9d1c0.4,9d1c0.5,9q000.4,9d1c0.6,9d440.7,9d1c0.6,9d1c0.4,1twdk0.8,asw00.9,7x3w0.2,asw00.3,7x6o0.2,asw00.3,7x6o0.2,b5uo0.3,7k800.2,b5uo0.3,7k800.2,b5uo0.3,7x6o0.2,asw00.3,7x6o0.2,asw00.3,7x6o0.2,b5uo0.3,7k800.2,b5uo0.3,7k800.2,b5uo0.3,7k800.2,b5uo0.3,7x6o0.2,asw00.3,7x6o0.2,asw00.3,7x6o0.2,b5uo0.3,7k800.2,b5uo0.3,7k800.2,b5uo0.3,7x6o0.2,asw00.3,7x6o0.2,asw00.3,7x6o0.2,asw00.3,blsznj.3|<+04>-4"),
  ("Asia/Bangkok", "24124,0;24124,0;25200,0|-1ayyla4.1,l06800.2,1phce9n.2|<+07>-7"),
  ("Asia/Barnaul", "20100,0;21600,0;28800,1;25200,0;25200,0;28800,1;25200,1;21600,0;25200,1;25200,0|-q4ljic.1,5hu6uc.3,qi27w0.2,9et80.3,9d440.2,9et80.3,9d440.2,9et80.3,9eys0.2,9d6w0.4,9d1c0.5,9d1c0.4,9d1c0.5,9d1c0.4,9d1c0.5,9d1c0.4,9d1c0.5,9d1c0.4,9d1c0.5,9d1c0.4,9d1c0.5,9q000.4,9d1c0.6,9d440.7,5reo0.4,3ljw0.5,9d1c0.4,9d1c0.5,9d1c0.4,9d1c0.5,9d1c0.4,9d1c0.5,38fo0.8,64og0.7,9q000.6,asw00.7,7x6o0.6,asw00.7,7x6o0.6,asw00.7,7x6o0.6,b5uo0.7,7k800.6,b5uo0.7,7k800.6,b5uo0.7,7x6o0.6,asw00.7,7x6o0.6,asw00.7,7x6o0.6,b5uo0.7,7k800.6,b5uo0.7,7k800.6,b5uo0.7,7k800.6,b5uo0.7,7x6o0.6,asw00.7,7x6o0.6,asw00.7,7x6o0.6,b5uo0.7,7k800.4,1vbzw0.7,qnc40.4,bdw43j.4|<+07>-7"),
  ("Asia/Beirut", "8520,0;10800,1;7200,0|-1ayy98o.2,kzyuco.1,aunw0.2,88dg0.1,9et80.2,8yas0.1,a2vw0.2,a31g0.1,7k580.2,hjqo40.1,7v980.2,awo40.1,7v980.2,awo40.1,7v980.2,ayis0.1,7v980.2,awo40.1,7v980.2,5lhs40.1,56yk0.2,awo40.1,7v980.2,awo40.1,7v980.2,awo40.1,7v980.2,ayis0.1,7v980.2,awo40.1,7v980.2,autg0.1,7v980.2,2wxus0.1,8n180.2,a4w40.1,8n180.2,a4w40.1,8n180.2,a4w40.1,8n180.2,bs5g0.1,71mk0.2,alk40.1,86d80.2,a4w40.1,8n180.2,a4w40.1,8n180.2,a6qs0.1,80t80.2,905g0.1,9cyk0.2,9d440.1,9cyk0.2,9d440.1,9cyk0.2,9q2s0.1,9cyk0.2,9d440.1,9cyk0.2,9d440.1,9cyk0.2,9d440.1,b5rw0.2,7kas0.1,b5rw0.2,7kas0.1,b5rw0.2,7x9g0.1,ast80.2,7x9g0.1,ast80.2,7x9g0.1,b5rw0.2,7kas0.1,b5rw0.2,7kas0.1,b5rw0.2,7kas0.1,b5rw0.2,7x9g0.1,ast80.2,7x9g0.1,ast80.2,7x9g0.1,b5rw0.2,7kas0.1,b5rw0.2,7kas0.1,b5rw0.2,7x9g0.1,ast80.2,7x9g0.1,ast80.2,7x9g0.1,ast80.2,7x9g0.1,b5rw0.2,7kas0.1,b5rw0.2,7kas0.1,b5rw0.2,7x9g0.1,ast80.2,7x9g0.1,ast80.2,7x9g0.1,b5rw0.2,7kas0.1,b5rw0.2,7kas0.1,b5rw0.2,7x9g0.1,ast80.2,7x9g0.1,ast80.2,7x9g0.1,ast80.2,7x9g0.1,b5rw0.2,7kas0.1,b5rw0.2,7kas0.1,b5rw0.2,7x9g0.1,ast80.2,7x9g0.1,ast80.2,7x9g0.1,b5rw0.2,7kas0.1,b5rw0.2,7kas0.1,b5rw0.2,7kas0.1,b5rw0.2,7x9g0.1,ast80.2,7x9g0.1,ast80.2|EET-2EEST,M3.5.0/0,M10.5.0/0"),
  ("Asia/Bishkek", "17904,0;18000,0;25200,1;21600,0;21600,0;25200,1;21600,1;21600,1|-nu19tc.1,379zxc.3,qi27w0.2,9et80.3,9d440.2,9et80.3,9d440.2,9et80.3,9eys0.2,9d6w0.4,9d1c0.5,9d1c0.4,9d1c0.5,9d1c0.4,9d1c0.5,9d1c0.4,9d1c0.5,9d1c0.4,9d1c0.5,9d1c0.4,9d1c0.5,9q000.4,9d1c0.6,7vc00.1,bkl80.6,8n180.1,a31g0.6,8n180.1,a31g0.6,8n180.1,a31g0.6,8n180.1,a31g0.6,8zzw0.1,9db20.7,ast80.1,7x9g0.7,ast80.1,7x9g0.7,b5rw0.1,7kas0.7,b5rw0.1,7kas0.7,b5rw0.1,7x9g0.7,ast80.1,7x9g0.7,ast80.1,7x9g0.7,b5rw0.1,7kas0.7,73aa0.3,gxhgbj.3|<+06>-6"),
  ("Asia/Brunei", "27580,0;27000,0;28800,0|-mvofy4.1,3khxs4.2,1itqj5j.2|<+08>-8"),
  ("Asia/Chita", "27232,0;28800,0;36000,1;32400,0;32400,0;36000,1;32400,1;28800,0;36000,0;36000,1;32400,0|-q4cfog.1,5hkxgg.3,qi27w0.2,9et80.3,9d440.2,9et80.3,9d440.2,9et80.3,9eys0.2,9d6w0.4,9d1c0.5,9d1c0.4,9d1c0.5,9d1c0.4,9d1c0.5,9d1c0.4,9d1c0.5,9d1c0.4,9d1c0.5,9d1c0.4,9d1c0.5,9q000.4,9d1c0.6,9d440.7,5reo0.4,3ljw0.5,9d1c0.4,9d1c0.5,9d1c0.4,9d1c0.5,9d1c0.4,9d1c0.5,9d1c0.4,9q000.5,asw00.4,7x6o0.5,asw00.4,7x6o0.5,asw00.4,7x6o0.5,b5uo0.4,7k800.5,b5uo0.4,7k800.5,b5uo0.4,7x6o0.5,asw00.4,7x6o0.5,asw00.4,7x6o0.5,b5uo0.4,7k800.5,b5uo0.4,7k800.5,b5uo0.4,7k800.5,b5uo0.4,7x6o0.5,asw00.4,7x6o0.5,asw00.4,7x6o0.5,b5uo0.4,7k800.8,1vbzw0.7,qnew0.3,bdw9nj.3|<+09>-9"),
  ("Asia/Colombo", "19164,0;19172,0;19800,0;21600,1;23400,1;23400,0;21600,0;19800,0|-1ayyhgc.1,dkh6ns.2,isle6k.3,cajy0.4,1mp2u0.2,qetjw0.5,7x5a0.6,4xvqq0.2,gktuxj.2|<+0530>-5:30"),
  ("Asia/Damascus", "8712,0;10800,1;7200,0;10800,0|-q3gk20.2,5k6q0.1,8n180.2,a31g0.1,8n180.2,a31g0.1,8n180.2,a31g0.1,8zzw0.2,k4hk40.1,7yyk0.2,awo40.1,7tek0.2,b0dg0.1,7v980.2,awo40.1,7tek0.2,alk40.1,887w0.2,awo40.1,7v980.2,ayis0.1,7v980.2,awo40.1,7v980.2,awo40.1,7v980.2,awo40.1,7v980.2,ayis0.1,7v980.2,awo40.1,7v980.2,awo40.1,7v980.2,awo40.1,7v980.2,ayis0.1,7v980.2,awo40.1,6bp80.2,cg840.1,6bp80.2,2eh1g0.1,8zzw0.2,9ts40.1,8zzw0.2,pvk40.1,c33w0.2,7cw40.1,cjrw0.2,6zxg0.1,btuk0.2,7rpg0.1,9gnw0.2,9d440.1,9cyk0.2,9et80.1,9et80.2,9rxg0.1,91uk0.2,92040.1,9et80.2,9o840.1,9et80.2,9d440.1,9et80.2,9eys0.1,9et80.2,9b9g0.1,9gnw0.2,99es0.1,9iik0.2,9d440.1,9et80.2,9eys0.1,9et80.2,9d440.1,9et80.2,9d440.1,9et80.2,9d440.1,9et80.2,9eys0.1,9et80.2,9d440.1,9et80.2,9d440.1,8y580.2,9q2s0.1,b5rw0.2,7x9g0.1,aunw0.2,7ig40.1,b5rw0.2,7x9g0.1,ast80.2,7x9g0.1,ast80.2,7x9g0.1,ast80.2,7x9g0.1,ast80.2,7x9g0.1,b5rw0.2,7kas0.1,b5rw0.2,7kas0.1,b5rw0.2,7x9g0.1,ast80.2,7x9g0.1,ast80.2,7x9g0.1,ast80.2,7x9g0.1,b5rw0.2,7kas0.1,b5rw0.2,7kas0.1,b5rw0.3,7y4hbj.3|<+03>-3"),
  ("Asia/Dhaka", "21700,0;21200,0;23400,0;19800,0;21600,0;25200,1|-15r1q2s.1,r080dw.2,bmgyw.3,5lxg0.2,4qknw0.4,u4ijy0.5,a1400.4,en10fj.4|<+06>-6"),
  ("Asia/Dili", "30140,0;28800,0;32400,0;28800,0;32400,0|-u9s3k0.1,fqct80.2,hufs00.3,cpz440.2,jhkf7j.2|<+09>-9"),
  ("Asia/Dubai", "13272,0;14400,0|-q3gnko.1,1pm0ok7.1|<+04>-4"),
  ("Asia/Dushanbe", "16512,0;18000,0;25200,1;21600,0;21600,0;25200,1;21600,1;18000,0|-nu18qo.1,379yuo.3,qi27w0.2,9et80.3,9d440.2,9et80.3,9d440.2,9et80.3,9eys0.2,9d6w0.4,9d1c0.5,9d1c0.4,9d1c0.5,9d1c0.4,9d1c0.5,9d1c0.4,9d1c0.5,9d1c0.4,9d1c0.5,9d1c0.4,9d1c0.5,9q000.4,9d1c0.6,8c2s0.7,o73qnj.7|<+05>-5"),
  ("Asia/Famagusta", "8148,0;10800,1;7200,0;7200,0;10800,1;10800,0;7200,0|-p4bqac.2,rvhy2c.1,9cyk0.2,b42s0.1,7nuk0.2,8yas0.1,8zzw0.2,9q2s0.1,9et80.2,9b9g0.1,9cyk0.2,9q2s0.1,8zzw0.2,9d440.1,9cyk0.2,9d440.1,9cyk0.2,9d440.1,9cyk0.2,9d440.1,9px80.2,9d440.1,9cyk0.2,9d440.1,9cyk0.2,9d440.1,9cyk0.2,9d440.1,9cyk0.2,9d440.1,9cyk0.2,9d440.1,9px80.2,9d440.1,9cyk0.2,9d440.1,9cyk0.2,9d440.1,9cyk0.2,9d440.1,9cyk0.2,9d440.1,9cyk0.2,9q2s0.1,9cyk0.2,9d440.1,9cyk0.2,9d440.1,at4c0.3,7x6o0.4,b5uo0.3,7k800.4,b5uo0.3,7k800.4,b5uo0.3,7x6o0.4,asw00.3,7x6o0.4,asw00.3,7x6o0.4,b5uo0.3,7k800.4,b5uo0.3,7k800.4,b5uo0.3,7k800.4,b5uo0.3,7x6o0.4,asw00.3,7x6o0.4,asw00.3,7x6o0.4,b5uo0.3,7k800.4,b5uo0.3,7k800.4,b5uo0.3,7x6o0.4,asw00.3,7x6o0.4,asw00.3,7x6o0.4,asw00.3,7x6o0.4,8h8w0.5,leog0.3,7k800.4,b5uo0.3,7x6o0.4,asw00.3,7x6o0.4,asw00.3,7x6o0.4,b5uo0.3,7k800.4,b5uo0.3,7k800.4,b5uo0.3,7x6o0.4,asw00.3,7x6o0.4,asw00.3,7x6o0.4,asw00.3,7x6o0.4,b5uo0.3,7k800.4,b5uo0.3,7k800.4,b5uo0.3,7x6o0.4,asw00.3,7x6o0.4,asw00.3,7x6o0.4,b5uo0.3,7k800.4,b5uo0.3,7k800.4,b5uo0.3,7k800.4,b5uo0.3,7x6o0.4,asw00.3,7x6o0.4,asw00.3|EET-2EEST,M3.5.0/3,M10.5.0/4"),
  ("Asia/Gaza", "8272,0;10800,1;7200,0;7200,0;10800,1;10800,1;7200,0;10800,1;7200,0;7200,0|-1054x1s.3,kp9t1s.1,69xc0.2,2f1c0.1,10q800.2,7rmo0.1,b0ao0.2,7thc0.1,b0ao0.2,8jeo0.1,a8io0.2,8jeo0.1,a8io0.2,5hoig0.4,7el80.3,awo40.4,7v980.3,awqw0.4,7tk40.3,b07w0.4,7tk40.3,ayd80.4,7tk40.3,ayd80.4,7tk40.3,ayd80.4,7tk40.3,b07w0.4,7tk40.3,ayd80.4,7tk40.3,ayd80.4,7ves0.3,awik0.4,1sns0.6,3p6is0.5,51ek0.6,9q2s0.5,6u7w0.6,2kjk40.7,25s00.8,1weyo0.7,5reo0.8,bvs00.5,776k0.6,dbpg0.5,5rbw0.6,bbhg0.5,7rjw0.6,asys0.5,7k580.6,c8tg0.5,6h980.6,ag040.5,7x3w0.6,asys0.5,8a2k0.6,asys0.5,8a2k0.6,ap9g0.5,80t80.6,ap9g0.5,7nuk0.6,b2840.5,80t80.6,66as0.3,4vxc0.4,8n400.9,a2yo0.4,8n400.9,a2yo0.4,8n400.9,asw00.4,9cyk0.3,9q2s0.4,9cyk0.3,9d440.4,9cyk0.3,9d440.4,9cyk0.3,9d440.4,9cyk0.3,9d440.4,8n400.3,a2yo0.4,8ulg0.3,97ek0.4,8y580.3,9ts40.4,8hms0.3,a4qk0.4,7x3w0.3,asys0.4,8a5c0.3,ahs1o.4,71mic.3,bzk5o.4,69uic.3,cg840.4,902o0.3,9q000.4,9cyk0.3,9d440.4,ast80.3,7z440.4,ar1c0.3,7z440.4,b5rw0.3,7kas0.4,b5rw0.3,7kas0.4,b5rw0.3,7vc00.4,aunw0.3,7x9g0.4,asw00.3,7x6o0.4,b4000.3,7nxc0.4,b42s0.3,9d440.4,9cyk0.3,905g0.4,9px80.3,8n6s0.4,a2vw0.3,7x9g0.4,ast80.3,7x9g0.4,b5rw0.3,7kas0.4,b5rw0.3,7kas0.4,b5rw0.3,7x9g0.4,ast80.3,7x9g0.4,ast80.3,7x9g0.4,b5rw0.3,7kas0.4,b5rw0.3,7kas0.4,b5rw0.3,7kas0.4,b5rw0.3,7x9g0.4,afuk0.3,8a840.4,a2vw0.3,8n6s0.4,9cyk0.3,9d440.4,8zzw0.3,9q2s0.4,8a2k0.3,2itg0.4,cvw0.3,7x9g0.4,7k580.3,25us0.4,12t80.3,7x9g0.4,776k0.3,25us0.4,1frw0.3,7x9g0.4,6h980.3,2itg0.4,1sqk0.3,7x9g0.4,64ak0.3,25us0.4,2vmk0.3,7kas0.4,5rbw0.3,25us0.4,38l80.3,7kas0.4,51ek0.3,2itg0.4,3ljw0.3,7x9g0.4,4bh80.3,25us0.4,4bh80.3,7x9g0.4,3ljw0.3,2itg0.4,4ofw0.3,7x9g0.4,38l80.3,25us0.4,5rbw0.3,7kas0.4,2vmk0.3,25us0.4,64ak0.3,7kas0.4,25p80.3,2itg0.4,6h980.3,7x9g0.4,1frw0.3,25us0.4,776k0.3,7x9g0.4,puk0.3,2itg0.4,7k580.3,7x9g0.4,cvw0.3,2itg0.4,7x3w0.3,a31g0.4,8zzw0.3,9d440.4,9cyk0.3,8n6s0.4,a2vw0.3,8a840.4,afuk0.3,7x9g0.4,ast80.3,7x9g0.4,b5rw0.3,7kas0.4,b5rw0.3,7kas0.4,b5rw0.3,7kas0.4,b5rw0.3,7x9g0.4,ast80.3,7x9g0.4,ast80.3,7x9g0.4,b5rw0.3,7kas0.4,b5rw0.3,7kas0.4,ast80.3,8a840.4,a2vw0.3,8n6s0.4,9px80.3,905g0.4,8zzw0.3,9q2s0.4,8n180.3,25us0.4,cvw0.3,7kas0.4,8a2k0.3,25us0.4,puk0.3,7kas0.4,7k580.3,2itg0.4,12t80.3,7x9g0.4,6u7w0.3,25us0.4,1sqk0.3,7x9g0.4,64ak0.3,2itg0.4,25p80.3,7x9g0.4,5rbw0.3,2itg0.4,2vmk0.3,7kas0.4,5ed80.3,25us0.4,3ljw0.3,7kas0.4,4ofw0.3,2itg0.4,3yik0.3,7x9g0.4,3yik0.3,25us0.4,4ofw0.3,7x9g0.4,3ljw0.3,25us0.4,51ek0.3,7x9g0.4,2vmk0.3,2itg0.4,5ed80.3,7x9g0.4,2inw0.3,25us0.4,6h980.3,7kas0.4,1sqk0.3,2itg0.4,6u7w0.3,7kas0.4,1frw0.3,2itg0.4,776k0.3,7x9g0.4,puk0.3,25us0.4,7x3w0.3|EET-2EEST,M3.4.4/50,M10.4.4/50"),
  ("Asia/Hebron", "8423,0;10800,1;7200,0;7200,0;10800,1;10800,1;7200,0;10800,1;7200,0;7200,0|-1054x5z.3,kp9t5z.1,69xc0.2,2f1c0.1,10q800.2,7rmo0.1,b0ao0.2,7thc0.1,b0ao0.2,8jeo0.1,a8io0.2,8jeo0.1,a8io0.2,5hoig0.4,7el80.3,awo40.4,7v980.3,awqw0.4,7tk40.3,b07w0.4,7tk40.3,ayd80.4,7tk40.3,ayd80.4,7tk40.3,ayd80.4,7tk40.3,b07w0.4,7tk40.3,ayd80.4,7tk40.3,ayd80.4,7ves0.3,awik0.4,1sns0.6,3p6is0.5,51ek0.6,9q2s0.5,6u7w0.6,2kjk40.7,25s00.8,1weyo0.7,5reo0.8,bvs00.5,776k0.6,dbpg0.5,5rbw0.6,bbhg0.5,7rjw0.6,asys0.5,7k580.6,c8tg0.5,6h980.6,ag040.5,7x3w0.6,asys0.5,8a2k0.6,asys0.5,8a2k0.6,ap9g0.5,80t80.6,ap9g0.5,7nuk0.6,b2840.5,80t80.6,66as0.3,4vxc0.4,8n400.9,a2yo0.4,8n400.9,a2yo0.4,8n400.9,asw00.4,9cyk0.3,9q2s0.4,9cyk0.3,9d440.4,9cyk0.3,9d440.4,9cyk0.3,9d440.4,9cyk0.3,9d440.4,8n400.3,a2yo0.4,8ulg0.3,97ek0.4,8y580.3,9ts40.4,8hms0.3,a4qk0.4,82nw0.3,anes0.4,8a5c0.3,afxc0.4,73h80.3,bzk5o.4,69uic.3,1hs40.4,1lbw0.3,9d440.4,902o0.3,9q000.4,9cyk0.3,9d440.4,ast80.3,7z440.4,ar1c0.3,7z440.4,b5rw0.3,7kas0.4,b5rw0.3,7kas0.4,b5rw0.3,7vc00.4,aunw0.3,7x9g0.4,asw00.3,7x6o0.4,b4000.3,7nxc0.4,b42s0.3,9d440.4,9cyk0.3,905g0.4,9px80.3,8n6s0.4,a2vw0.3,7x9g0.4,ast80.3,7x9g0.4,b5rw0.3,7kas0.4,b5rw0.3,7kas0.4,b5rw0.3,7x9g0.4,ast80.3,7x9g0.4,ast80.3,7x9g0.4,b5rw0.3,7kas0.4,b5rw0.3,7kas0.4,b5rw0.3,7kas0.4,b5rw0.3,7x9g0.4,afuk0.3,8a840.4,a2vw0.3,8n6s0.4,9cyk0.3,9d440.4,8zzw0.3,9q2s0.4,8a2k0.3,2itg0.4,cvw0.3,7x9g0.4,7k580.3,25us0.4,12t80.3,7x9g0.4,776k0.3,25us0.4,1frw0.3,7x9g0.4,6h980.3,2itg0.4,1sqk0.3,7x9g0.4,64ak0.3,25us0.4,2vmk0.3,7kas0.4,5rbw0.3,25us0.4,38l80.3,7kas0.4,51ek0.3,2itg0.4,3ljw0.3,7x9g0.4,4bh80.3,25us0.4,4bh80.3,7x9g0.4,3ljw0.3,2itg0.4,4ofw0.3,7x9g0.4,38l80.3,25us0.4,5rbw0.3,7kas0.4,2vmk0.3,25us0.4,64ak0.3,7kas0.4,25p80.3,2itg0.4,6h980.3,7x9g0.4,1frw0.3,25us0.4,776k0.3,7x9g0.4,puk0.3,2itg0.4,7k580.3,7x9g0.4,cvw0.3,2itg0.4,7x3w0.3,a31g0.4,8zzw0.3,9d440.4,9cyk0.3,8n6s0.4,a2vw0.3,8a840.4,afuk0.3,7x9g0.4,ast80.3,7x9g0.4,b5rw0.3,7kas0.4,b5rw0.3,7kas0.4,b5rw0.3,7kas0.4,b5rw0.3,7x9g0.4,ast80.3,7x9g0.4,ast80.3,7x9g0.4,b5rw0.3,7kas0.4,b5rw0.3,7kas0.4,ast80.3,8a840.4,a2vw0.3,8n6s0.4,9px80.3,905g0.4,8zzw0.3,9q2s0.4,8n180.3,25us0.4,cvw0.3,7kas0.4,8a2k0.3,25us0.4,puk0.3,7kas0.4,7k580.3,2itg0.4,12t80.3,7x9g0.4,6u7w0.3,25us0.4,1sqk0.3,7x9g0.4,64ak0.3,2itg0.4,25p80.3,7x9g0.4,5rbw0.3,2itg0.4,2vmk0.3,7kas0.4,5ed80.3,25us0.4,3ljw0.3,7kas0.4,4ofw0.3,2itg0.4,3yik0.3,7x9g0.4,3yik0.3,25us0.4,4ofw0.3,7x9g0.4,3ljw0.3,25us0.4,51ek0.3,7x9g0.4,2vmk0.3,2itg0.4,5ed80.3,7x9g0.4,2inw0.3,25us0.4,6h980.3,7kas0.4,1sqk0.3,2itg0.4,6u7w0.3,7kas0.4,1frw0.3,2itg0.4,776k0.3,7x9g0.4,puk0.3,25us0.4,7x3w0.3|EET-2EEST,M3.4.4/50,M10.4.4/50"),
  ("Asia/Ho_Chi_Minh", "25590,0;25590,0;25200,0;28800,0;32400,0;25200,0|-x5692u.1,2isio0.2,gj25iu.3,15ct80.4,8so00.2,tmtk0.3,4azmo0.2,2cm7w0.3,8285c0.2,wo9b7j.2|<+07>-7"),
  ("Asia/Hong_Kong", "27402,0;28800,0;32400,1;30600,1;32400,0;28800,0;32400,1;28800,0|-y0i0s0.1,j44dk0.2,5k000.3,4d4y0.4,2195i0.7,7x3w0.2,bj320.5,6uao0.6,bvs00.5,7x6o0.6,9d1c0.5,7x6o0.2,asw00.5,7x6o0.2,asw00.5,7x6o0.2,asw00.5,8a5c0.2,asw00.5,7x6o0.2,ast80.7,77c40.2,biqk0.7,77c40.2,bvp80.7,6udg0.2,bvp80.7,77c40.2,biqk0.7,77c40.2,biqk0.7,77c40.2,biqk0.7,77c40.2,bvp80.7,6udg0.2,bvp80.7,6udg0.2,bvp80.7,77c40.2,biqk0.7,77c40.2,biqk0.7,8n6s0.2,9cyk0.7,9d440.2,9cyk0.7,9d440.2,9px80.7,9d440.2,9cyk0.7,9d440.2,9cyk0.7,9d440.2,9cyk0.7,9d440.2,9cyk0.7,9d440.2,9px80.7,9d440.2,9cyk0.7,3lpg0.2,f4d80.7,9d440.2,9cyk0.7,9d440.2,9cyk0.7,1c9440.2,8a2k0.7|HKT-8"),
  ("Asia/Hovd", "21996,0;21600,0;28800,1;25200,0|-xmcoz0.1,11sncb0.3,2qk2k0.2,9et80.3,9eys0.2,9cyk0.3,9d440.2,9cyk0.3,9d440.2,9cyk0.3,9d440.2,9cyk0.3,9d440.2,9cyk0.3,9d440.2,9cyk0.3,9d440.2,9px80.3,9d440.2,9cyk0.3,9d440.2,9cyk0.3,9d440.2,9cyk0.3,9d440.2,9cyk0.3,9d440.2,9cyk0.3,9q2s0.2,9cyk0.3,9d440.2,9cyk0.3,9d440.2,9cyk0.3,1ckdo0.2,7x3w0.3,9d440.2,9cyk0.3,9d440.2,9cyk0.3,9d440.2,9cyk0.3,9d440.2,9cyk0.3,9d440.2,9px80.3,4fio40.2,9ct00.3,9d9o0.2,9ct00.3,b4l8jj.3|<+07>-7"),
  ("Asia/Irkutsk", "25025,0;25025,0;25200,0;32400,1;28800,0;28800,0;32400,1;28800,1;25200,0;32400,0;32400,1;28800,0|-1ayylz5.1,kwq5c0.2,5fh175.4,qi27w0.3,9et80.4,9d440.3,9et80.4,9d440.3,9et80.4,9eys0.3,9d6w0.5,9d1c0.6,9d1c0.5,9d1c0.6,9d1c0.5,9d1c0.6,9d1c0.5,9d1c0.6,9d1c0.5,9d1c0.6,9d1c0.5,9d1c0.6,9q000.5,9d1c0.7,9d440.8,5reo0.5,3ljw0.6,9d1c0.5,9d1c0.6,9d1c0.5,9d1c0.6,9d1c0.5,9d1c0.6,9d1c0.5,9q000.6,asw00.5,7x6o0.6,asw00.5,7x6o0.6,asw00.5,7x6o0.6,b5uo0.5,7k800.6,b5uo0.5,7k800.6,b5uo0.5,7x6o0.6,asw00.5,7x6o0.6,asw00.5,7x6o0.6,b5uo0.5,7k800.6,b5uo0.5,7k800.6,b5uo0.5,7k800.6,b5uo0.5,7x6o0.6,asw00.5,7x6o0.6,asw00.5,7x6o0.6,b5uo0.5,7k800.9,1vbzw0.5,c4jlrj.5|<+08>-8"),
  ("Asia/Jakarta", "25632,0;25632,0;26400,0;27000,0;32400,0;28800,0;25200,0|-1hftyg0.1,tfikqo.2,4lzxc0.3,4wdzjc.4,1tu960.3,1cx860.5,11jta0.3,74uc20.6|WIB-7"),
  ("Asia/Jayapura", "33768,0;32400,0;34200,0;32400,0|-jebm20.1,66bqe0.2,a37vy0.3|WIT-9"),
  ("Asia/Jerusalem", "8454,0;8440,0;10800,1;7200,0;14400,1;10800,1;7200,0;10800,1;7200,0|-1ayy96u.1,jtxuoe.6,bp5aig.2,69xc0.3,2f1c0.2,10q800.3,7rmo0.2,b0ao0.3,7thc0.2,b0ao0.3,8jeo0.2,a8io0.3,8jeo0.2,a8io0.3,t9pc0.4,571c0.2,34yo0.3,9b6o0.2,9gqo0.3,8jeo0.2,7thc0.3,a6o00.2,bitc0.3,8a5c0.2,9d1c0.3,902o0.2,7x6o0.3,e1k00.2,4oio0.3,e1k00.2,4oio0.3,dolc0.2,64dc0.3,asw00.2,7k800.3,8rfeg0.5,51ek0.6,9q2s0.5,6u7w0.6,2kjk40.7,25s00.8,1weyo0.7,5reo0.8,bvs00.5,776k0.6,dbpg0.5,5rbw0.6,bbhg0.5,7rjw0.6,asys0.5,7k580.6,c8tg0.5,6h980.6,ag040.5,7x3w0.6,asys0.5,8a2k0.6,asys0.5,8a2k0.6,ap9g0.5,80t80.6,ap9g0.5,7nuk0.6,b2840.5,80t80.6,9zc40.5,9iik0.6,9kis0.5,93p80.6,9mdg0.5,8qqk0.6,apf00.5,7x3w0.6,biw40.5,8zx40.6,9io40.5,8n180.6,9kis0.5,9vh80.6,8ulg0.5,9px80.6,9mdg0.5,8n180.6,9tuw0.5,9tmk0.6,8wg40.5,9gnw0.6,99es0.5,8qqk0.6,9zc40.5,9tmk0.6,8wg40.5,9gnw0.6,99es0.5,8qqk0.6,acas0.5,9gnw0.6,99es0.5,93p80.6,9mdg0.5,awik0.6,7tk40.5,awik0.6,7tk40.5,awik0.6,7tk40.5,b9h80.6,7glg0.5,b9h80.6,7glg0.5,b9h80.6,7tk40.5,awik0.6,7tk40.5,awik0.6,7tk40.5,b9h80.6,7glg0.5,b9h80.6,7glg0.5,b9h80.6,7tk40.5,awik0.6,7tk40.5,awik0.6,7tk40.5,awik0.6,7tk40.5,b9h80.6,7glg0.5,b9h80.6,7glg0.5,b9h80.6,7tk40.5,awik0.6,7tk40.5,awik0.6,7tk40.5,b9h80.6,7glg0.5,b9h80.6,7glg0.5,b9h80.6,7glg0.5,b9h80.6,7tk40.5,awik0.6,7tk40.5,awik0.6|IST-2IDT,M3.4.4/26,M10.5.0"),
  ("Asia/Kabul", "16608,0;14400,0;16200,0|-15r1m5c.1,spc1pc.2,1ck9lfj.2|<+0430>-4:30"),
  ("Asia/Kamchatka", "38076,0;39600,0;46800,1;43200,0;43200,0;46800,1;43200,1;39600,0;43200,0|-olrupo.1,3z045o.3,qi27w0.2,9et80.3,9d440.2,9et80.3,9d440.2,9et80.3,9eys0.2,9d6w0.4,9d1c0.5,9d1c0.4,9d1c0.5,9d1c0.4,9d1c0.5,9d1c0.4,9d1c0.5,9d1c0.4,9d1c0.5,9d1c0.4,9d1c0.5,9q000.4,9d1c0.6,9d440.7,5reo0.4,3ljw0.5,9d1c0.4,9d1c0.5,9d1c0.4,9d1c0.5,9d1c0.4,9d1c0.5,9d1c0.4,9q000.5,asw00.4,7x6o0.5,asw00.4,7x6o0.5,asw00.4,7x6o0.5,b5uo0.4,7k800.5,b5uo0.4,7k800.5,b5uo0.4,7x6o0.5,asw00.4,7x6o0.5,asw00.4,7x6o0.5,b5uo0.4,7k800.5,b5uo0.4,7k800.5,b5uo0.4,7k800.5,b5uo0.4,7x6o0.5,asw00.4,7x6o0.5,asw00.4,7x6o0.6,b5xg0.7,7k800.4,dzvtzj.4|<+12>-12"),
  ("Asia/Karachi", "16092,0;19800,0;23400,1;18000,0;21600,1;18000,0|-wvpb30.1,im3zt0.2,1mn180.1,33xpg0.3,a63o20.5,g72qo0.4,9cyk0.5,2y85g0.4,7v980.5,8hms0.4,aaak0.5|PKT-5"),
  ("Asia/Kathmandu", "20476,0;19800,0;20700,0|-q3gt4s.1,yg2lus.2,r5y89j.2|<+0545>-5:45"),
  ("Asia/Khandyga", "32533,0;28800,0;36000,1;32400,0;32400,0;36000,1;32400,1;28800,0;39600,1;36000,0;36000,0;39600,0;32400,0|-q4cjrp.1,5hl1jp.3,qi27w0.2,9et80.3,9d440.2,9et80.3,9d440.2,9et80.3,9eys0.2,9d6w0.4,9d1c0.5,9d1c0.4,9d1c0.5,9d1c0.4,9d1c0.5,9d1c0.4,9d1c0.5,9d1c0.4,9d1c0.5,9d1c0.4,9d1c0.5,9q000.4,9d1c0.6,9d440.7,5reo0.4,3ljw0.5,9d1c0.4,9d1c0.5,9d1c0.4,9d1c0.5,9d1c0.4,9d1c0.5,9d1c0.4,9q000.5,asw00.4,7x6o0.5,asw00.4,7x6o0.5,asw00.4,7x6o0.5,b5uo0.4,7k800.5,b5uo0.4,7k800.5,b5uo0.4,7x6o0.5,asw00.4,7x6o0.5,asw00.4,3fx40.a,4h6s0.8,b5uo0.9,7k800.8,b5uo0.9,7k800.8,b5uo0.9,7k800.8,b5uo0.9,7x6o0.8,asw00.9,7x6o0.8,asw00.9,7x6o0.8,b5uo0.9,7k800.b,8ql00.9,1mlho0.4,c4jojj.4|<+09>-9"),
  ("Asia/Kolkata", "21208,0;21200,0;19270,0;19800,0;23400,1|-1oaa314.1,83glc8.2,isc6tm.3,innm9a.4,bmfw0.3,5lxg0.4,1mn180.3|IST-5:30"),
  ("Asia/Krasnoyarsk", "22286,0;21600,0;28800,1;25200,0;25200,0;28800,1;25200,1;21600,0;28800,0;28800,1;25200,0|-q37l72.1,5gg8j2.3,qi27w0.2,9et80.3,9d440.2,9et80.3,9d440.2,9et80.3,9eys0.2,9d6w0.4,9d1c0.5,9d1c0.4,9d1c0.5,9d1c0.4,9d1c0.5,9d1c0.4,9d1c0.5,9d1c0.4,9d1c0.5,9d1c0.4,9d1c0.5,9q000.4,9d1c0.6,9d440.7,5reo0.4,3ljw0.5,9d1c0.4,9d1c0.5,9d1c0.4,9d1c0.5,9d1c0.4,9d1c0.5,9d1c0.4,9q000.5,asw00.4,7x6o0.5,asw00.4,7x6o0.5,asw00.4,7x6o0.5,b5uo0.4,7k800.5,b5uo0.4,7k800.5,b5uo0.4,7x6o0.5,asw00.4,7x6o0.5,asw00.4,7x6o0.5,b5uo0.4,7k800.5,b5uo0.4,7k800.5,b5uo0.4,7k800.5,b5uo0.4,7x6o0.5,asw00.4,7x6o0.5,asw00.4,7x6o0.5,b5uo0.4,7k800.8,1vbzw0.4,c4jizj.4|<+07>-7"),
  ("Asia/Kuala_Lumpur", "24406,0;24925,0;25200,0;26400,1;26400,0;27000,0;32400,0;28800,0|-100ew5y.1,2ax69l.2,eeb94d.3,1kbr2o.4,2yhc00.5,8n3jc.6,1v2p60.5,iy3ms0.7,t93z7j.7|<+08>-8"),
  ("Asia/Kuching", "26480,0;27000,0;30000,1;28800,0;32400,0;28800,0|-mvof3k.1,3khwxk.3,1epvy0.2,4ohqo.3,e5a9c.2,4ohqo.3,e3flc.2,4ohqo.3,e3flc.2,4ohqo.3,e3flc.2,4ohqo.3,e5a9c.2,4ohqo.3,e3flc.2,4ohqo.3,3ajlc.4,1v2qk0.3,1c77lzj.3|<+08>-8"),
  ("Asia/Kuwait", "11516,0;10800,0|-afs0vw.1,19yc1vf.1|<+03>-3"),
  ("Asia/Macau", "27250,0;28800,0;36000,1;32400,0;32400,1;28800,0;32400,1|-y0i2cy.1,jdvyoy.3,6onw0.2,ac580.3,8fs40.2,7v980.3,11luw0.1,awlc0.4,7vc00.5,ac800.4,bko00.5,7x6o0.4,9d1c0.5,7vc00.4,asw00.5,7x6o0.4,asw00.5,7x6o0.4,auqo0.5,88ao0.4,asw00.5,7x6o0.4,asw00.5,779c0.4,bitc0.5,779c0.4,bvs00.5,6uao0.4,bw1q0.1,77c40.6,biqk0.1,77c40.6,biqk0.1,77c40.6,biqk0.1,77c40.6,bvp80.1,6udg0.6,bvp80.1,6udg0.6,bvp80.1,77c40.6,biqk0.1,77c40.6,biqk0.1,8n6s0.6,9cvs0.1,9d6w0.6,9cvs0.1,9d6w0.6,9px80.1,9d440.6,9cyk0.1,9d440.6,9cyk0.1,9d440.6,9cyk0.1,9d440.6,9cyk0.1,9d440.6,9px80.1,9d440.6,9cyk0.1,3lpg0.6,f4d80.1,9d440.6,9cyk0.1,9d440.6,9cyk0.1,1c9440.6,8a2k0.1|CST-8"),
  ("Asia/Magadan", "36192,0;36000,0;43200,1;39600,0;39600,0;43200,1;39600,1;36000,0;43200,0;43200,1;39600,0|-nu1nxc.1,37a05c.3,qi27w0.2,9et80.3,9d440.2,9et80.3,9d440.2,9et80.3,9eys0.2,9d6w0.4,9d1c0.5,9d1c0.4,9d1c0.5,9d1c0.4,9d1c0.5,9d1c0.4,9d1c0.5,9d1c0.4,9d1c0.5,9d1c0.4,9d1c0.5,9q000.4,9d1c0.6,9d440.7,5reo0.4,3ljw0.5,9d1c0.4,9d1c0.5,9d1c0.4,9d1c0.5,9d1c0.4,9d1c0.5,9d1c0.4,9q000.5,asw00.4,7x6o0.5,asw00.4,7x6o0.5,asw00.4,7x6o0.5,b5uo0.4,7k800.5,b5uo0.4,7k800.5,b5uo0.4,7x6o0.5,asw00.4,7x6o0.5,asw00.4,7x6o0.5,b5uo0.4,7k800.5,b5uo0.4,7k800.5,b5uo0.4,7k800.5,b5uo0.4,7x6o0.5,asw00.4,7x6o0.5,asw00.4,7x6o0.5,b5uo0.4,7k800.8,1vbzw0.7,s39k0.4,bcgkjj.4|<+11>-11"),
  ("Asia/Makassar", "28656,0;28656,0;28800,0;32400,0;28800,0|-q3gzg0.1,6p5hc0.2,4u87w0.3,1w02k0.4|WITA-8"),
  ("Asia/Manila", "-57368,0;29032,0;32400,1;28800,0;28800,0;32400,0;28800,0|-1t8ix2g.1,sjc9ig.4,je0pc0.2,3wnw0.3,2kc5g0.2,2zbw0.5,1leo00.2,dzpc0.3,4d3ms0.2,2rx80.3,bwlpg0.2,95jw0.3,6lv1g0.2,3jp80.3|PST-8"),
  ("Asia/Muscat", "14064,0;14400,0|-q3go6o.1,1pm0p67.1|<+04>-4"),
  ("Asia/Nicosia", "8008,0;10800,1;7200,0;7200,0;10800,1|-p4bq6g.2,rvhxyg.1,9cyk0.2,b42s0.1,7nuk0.2,8yas0.1,8zzw0.2,9q2s0.1,9et80.2,9b9g0.1,9cyk0.2,9q2s0.1,8zzw0.2,9d440.1,9cyk0.2,9d440.1,9cyk0.2,9d440.1,9cyk0.2,9d440.1,9px80.2,9d440.1,9cyk0.2,9d440.1,9cyk0.2,9d440.1,9cyk0.2,9d440.1,9cyk0.2,9d440.1,9cyk0.2,9d440.1,9px80.2,9d440.1,9cyk0.2,9d440.1,9cyk0.2,9d440.1,9cyk0.2,9d440.1,9cyk0.2,9d440.1,9cyk0.2,9q2s0.1,9cyk0.2,9d440.1,9cyk0.2,9d440.1,at4c0.3,7x6o0.4,b5uo0.3,7k800.4,b5uo0.3,7k800.4,b5uo0.3,7x6o0.4,asw00.3,7x6o0.4,asw00.3,7x6o0.4,b5uo0.3,7k800.4,b5uo0.3,7k800.4,b5uo0.3,7k800.4,b5uo0.3,7x6o0.4,asw00.3,7x6o0.4,asw00.3,7x6o0.4,b5uo0.3,7k800.4,b5uo0.3,7k800.4,b5uo0.3,7x6o0.4,asw00.3,7x6o0.4,asw00.3,7x6o0.4,asw00.3,7x6o0.4,b5uo0.3,7k800.4,b5uo0.3,7k800.4,b5uo0.3,7x6o0.4,asw00.3,7x6o0.4,asw00.3,7x6o0.4,b5uo0.3,7k800.4,b5uo0.3,7k800.4,b5uo0.3,7x6o0.4,asw00.3,7x6o0.4,asw00.3,7x6o0.4,asw00.3,7x6o0.4,b5uo0.3,7k800.4,b5uo0.3,7k800.4,b5uo0.3,7x6o0.4,asw00.3,7x6o0.4,asw00.3,7x6o0.4,b5uo0.3,7k800.4,b5uo0.3,7k800.4,b5uo0.3,7k800.4,b5uo0.3,7x6o0.4,asw00.3,7x6o0.4,asw00.3|EET-2EEST,M3.5.0/3,M10.5.0/4"),
  ("Asia/Novokuznetsk", "20928,0;21600,0;28800,1;25200,0;25200,0;28800,1;25200,1;21600,0;25200,0|-nu36tc.1,37bu5c.3,qi27w0.2,9et80.3,9d440.2,9et80.3,9d440.2,9et80.3,9eys0.2,9d6w0.4,9d1c0.5,9d1c0.4,9d1c0.5,9d1c0.4,9d1c0.5,9d1c0.4,9d1c0.5,9d1c0.4,9d1c0.5,9d1c0.4,9d1c0.5,9q000.4,9d1c0.6,9d440.7,5reo0.4,3ljw0.5,9d1c0.4,9d1c0.5,9d1c0.4,9d1c0.5,9d1c0.4,9d1c0.5,9d1c0.4,9q000.5,asw00.4,7x6o0.5,asw00.4,7x6o0.5,asw00.4,7x6o0.5,b5uo0.4,7k800.5,b5uo0.4,7k800.5,b5uo0.4,7x6o0.5,asw00.4,7x6o0.5,asw00.4,7x6o0.5,b5uo0.4,7k800.5,b5uo0.4,7k800.5,b5uo0.4,7k800.5,b5uo0.4,7x6o0.5,asw00.4,7x6o0.5,asw00.4,7x6o0.6,b5xg0.7,7k800.4,dzvg3j.4|<+07>-7"),
  ("Asia/Novosibirsk", "19900,0;21600,0;28800,1;25200,0;25200,0;28800,1;25200,1;21600,0;25200,1;25200,0|-q4do0s.1,5hmbcs.3,qi27w0.2,9et80.3,9d440.2,9et80.3,9d440.2,9et80.3,9eys0.2,9d6w0.4,9d1c0.5,9d1c0.4,9d1c0.5,9d1c0.4,9d1c0.5,9d1c0.4,9d1c0.5,9d1c0.4,9d1c0.5,9d1c0.4,9d1c0.5,9q000.4,9d1c0.6,9d440.7,5reo0.4,3ljw0.5,9d1c0.4,9d1c0.5,2vh00.8,6hn40.7,9d1c0.6,9d1c0.7,9d1c0.6,9d1c0.7,9q000.6,asw00.7,7x6o0.6,asw00.7,7x6o0.6,asw00.7,7x6o0.6,b5uo0.7,7k800.6,b5uo0.7,7k800.6,b5uo0.7,7x6o0.6,asw00.7,7x6o0.6,asw00.7,7x6o0.6,b5uo0.7,7k800.6,b5uo0.7,7k800.6,b5uo0.7,7k800.6,b5uo0.7,7x6o0.6,asw00.7,7x6o0.6,asw00.7,7x6o0.6,b5uo0.7,7k800.4,1vbzw0.7,wrpg0.4,b7rqrj.4|<+07>-7"),
  ("Asia/Omsk", "17610,0;18000,0;25200,1;21600,0;21600,0;25200,1;21600,1;18000,0;25200,0;25200,1;21600,0|-q5xmx6.1,5j6d16.3,qi27w0.2,9et80.3,9d440.2,9et80.3,9d440.2,9et80.3,9eys0.2,9d6w0.4,9d1c0.5,9d1c0.4,9d1c0.5,9d1c0.4,9d1c0.5,9d1c0.4,9d1c0.5,9d1c0.4,9d1c0.5,9d1c0.4,9d1c0.5,9q000.4,9d1c0.6,9d440.7,5reo0.4,3ljw0.5,9d1c0.4,9d1c0.5,9d1c0.4,9d1c0.5,9d1c0.4,9d1c0.5,9d1c0.4,9q000.5,asw00.4,7x6o0.5,asw00.4,7x6o0.5,asw00.4,7x6o0.5,b5uo0.4,7k800.5,b5uo0.4,7k800.5,b5uo0.4,7x6o0.5,asw00.4,7x6o0.5,asw00.4,7x6o0.5,b5uo0.4,7k800.5,b5uo0.4,7k800.5,b5uo0.4,7k800.5,b5uo0.4,7x6o0.5,asw00.4,7x6o0.5,asw00.4,7x6o0.5,b5uo0.4,7k800.8,1vbzw0.4,c4jg7j.4|<+06>-6"),
  ("Asia/Oral", "12324,0;10800,0;18000,0;21600,1;21600,0;18000,0;21600,1;18000,1;14400,0;18000,0|-nu15ic.1,37a16c.2,qi2540.3,9et80.4,9d1c0.3,9ew00.2,9d440.3,9et80.2,9eys0.3,9d6w0.5,9d1c0.6,9d1c0.5,9d1c0.6,9d1c0.5,9d1c0.6,9d1c0.5,9d1c0.6,9d1c0.5,9d1c0.7,9d440.8,9d1c0.7,9q000.8,9d1c0.7,9d1c0.8,5reo0.5,3ljw0.7,9d440.8,9d1c0.7,9d1c0.8,9d1c0.7,9d1c0.8,9d1c0.7,9d1c0.8,9q000.7,asw00.8,7x6o0.7,asw00.8,7x6o0.7,asw00.8,7x6o0.7,b5uo0.8,7k800.7,b5uo0.8,7k800.7,b5uo0.8,7x6o0.7,asw00.8,7x6o0.7,asw00.8,7x6o0.7,b5uo0.5,hc4x7j.5|<+05>-5"),
  ("Asia/Phnom_Penh", "25180,0;25590,0;25200,0;28800,0;32400,0;25200,0|-x568rg.1,2isicm.2,gj25iu.3,15ct80.4,8so00.2,1c7q4nj.2|<+07>-7"),
  ("Asia/Pontianak", "26240,0;26240,0;27000,0;32400,0;28800,0;28800,0;25200,0|-w6piww.1,cse2o0.2,4tnu2w.3,1wkei0.2,1cx860.4,11jta0.2,74uc20.5,cixam0.6|WIB-7"),
  ("Asia/Pyongyang", "30180,0;30600,0;32400,0;32400,0|-w895yc.1,1yh10c.2,hk5da0.3,10ipmo0.1,1f4qo0.3|KST-9"),
  ("Asia/Qatar", "12368,0;14400,0;10800,0|-q3gmvk.1,rctnrk.2,y9703j.2|<+03>-3"),
  ("Asia/Qostanay", "15268,0;14400,0;18000,0;21600,1;21600,0;18000,0;21600,1;18000,1;14400,0;21600,0;21600,1;18000,0|-nu17s4.1,37a0o4.2,qi27w0.3,9et80.4,9d1c0.3,9ew00.2,9d440.3,9et80.2,9eys0.3,9d6w0.5,9d1c0.6,9d1c0.5,9d1c0.6,9d1c0.5,9d1c0.6,9d1c0.5,9d1c0.6,9d1c0.5,9d1c0.6,9d1c0.5,9d1c0.6,9q000.5,9d1c0.7,9d440.8,5reo0.5,3ljw0.6,9d1c0.5,9d1c0.6,9d1c0.5,9d1c0.6,9d1c0.5,9d1c0.6,9d1c0.5,9q000.6,asw00.5,7x6o0.6,asw00.5,7x6o0.6,asw00.5,7x6o0.6,b5uo0.5,7k800.6,b5uo0.5,7k800.6,b5uo0.5,7x6o0.6,asw00.5,7x6o0.6,asw00.5,7x6o0.6,b5uo0.9,a37p00.2,78xazj.2|<+05>-5"),
  ("Asia/Qyzylorda", "15712,0;14400,0;18000,0;21600,1;21600,0;18000,0;21600,1;18000,1;21600,0;21600,1;18000,0|-nu184g.1,37a10g.2,qi27w0.3,9et80.4,9d1c0.3,9ew00.2,9d440.3,9et80.2,9eys0.3,9d6w0.5,9d1c0.6,9d1c0.5,9d1c0.6,9d1c0.5,9d1c0.6,9d1c0.5,9d1c0.6,9d1c0.5,9d1c0.6,9d1c0.5,9d1c0.6,9q000.5,9d1c0.7,9d440.5,5rbw0.8,3ljw0.6,9d440.5,9d1c0.6,9d1c0.5,9d1c0.6,9d1c0.5,9d1c0.6,9d1c0.5,9q000.6,asw00.5,7x6o0.6,asw00.5,7x6o0.6,asw00.5,7x6o0.6,b5uo0.5,7k800.6,b5uo0.5,7k800.6,b5uo0.5,7x6o0.6,asw00.5,7x6o0.6,asw00.5,7x6o0.6,b5uo0.8,7dmqc0.2,9yi9nj.2|<+05>-5"),
  ("Asia/Riyadh", "11212,0;10800,0|-bwgbbg.1,1bf0caz.1|<+03>-3"),
  ("Asia/Sakhalin", "34248,0;32400,0;43200,1;39600,0;39600,0;43200,1;39600,1;36000,0;39600,0|-xl87rc.1,kvnarc.3,ikvh40.2,9et80.3,9d440.2,9et80.3,9d440.2,9et80.3,9eys0.2,9d6w0.4,9d1c0.5,9d1c0.4,9d1c0.5,9d1c0.4,9d1c0.5,9d1c0.4,9d1c0.5,9d1c0.4,9d1c0.5,9d1c0.4,9d1c0.5,9q000.4,9d1c0.6,9d440.7,5reo0.4,3ljw0.5,9d1c0.4,9d1c0.5,9d1c0.4,9d1c0.5,9d1c0.4,9d1c0.5,9d1c0.4,9q000.5,asw00.4,7x6o0.6,asys0.7,7x6o0.6,asw00.7,7x6o0.6,b5uo0.7,7k800.6,b5uo0.7,7k800.6,b5uo0.7,7x6o0.6,asw00.7,7x6o0.6,asw00.7,7x6o0.6,b5uo0.7,7k800.6,b5uo0.7,7k800.6,b5uo0.7,7k800.6,b5uo0.7,7x6o0.6,asw00.7,7x6o0.6,asw00.7,7x6o0.6,b5uo0.7,7k800.4,1vbzw0.7,qnc40.4,bdwf7j.4|<+11>-11"),
  ("Asia/Samarkand", "16073,0;14400,0;18000,0;21600,1;21600,0;18000,0;21600,1|-nu18eh.1,37a1ah.2,qi27w0.3,9et80.4,9d1c0.3,9ew00.2,9d440.3,9et80.2,9eys0.3,9d6w0.5,9d1c0.6,9d1c0.5,9d1c0.6,9d1c0.5,9d1c0.6,9d1c0.5,9d1c0.6,9d1c0.5,9d1c0.6,9d1c0.5,9d1c0.6,9q000.5,9d1c0.6,9d1c0.5,o62pbj.5|<+05>-5"),
  ("Asia/Seoul", "30472,0;30600,0;32400,0;36000,1;32400,0;34200,1;36000,1|-w8966g.1,1yh18g.2,hkx5a0.4,1faao0.3,5cik0.4,ae5g0.3,8a2k0.4,ae5g0.3,8bx80.4,c8tg0.3,6h980.4,1bj6s0.1,l3aq0.5,6j3w0.1,d2g40.5,6u7w0.1,b5xg0.5,776k0.1,biw40.5,776k0.1,biw40.5,776k0.1,biw40.5,776k0.1,grs40.4,dfqxi0.3,7x6o0.4,asw00.3,7x6o0.4|KST-9"),
  ("Asia/Shanghai", "29143,0;32400,1;28800,0|-100eztj.2,9jeyxj.1,8sl80.2,asbpg0.1,6w2k0.2,7ves0.1,bxjw0.2,4mqs0.1,1vduk0.2,d4as0.1,75bw0.2,a31g0.1,aaak0.2,9d440.1,7v980.2,awo40.1,1dx80.2,j9xpo0.1,6u7w0.2,asys0.1,7x3w0.2,b5xg0.1,7k580.2,b5xg0.1,7x3w0.2,asys0.1,7x3w0.2,asys0.1,7x3w0.2|CST-8"),
  ("Asia/Singapore", "24925,0;24925,0;25200,0;26400,1;26400,0;27000,0;32400,0;28800,0|-100ewkd.1,2ax6o0.2,eeb94d.3,1kbr2o.4,2yhc00.5,8n3jc.6,1v2p60.5,iy3ms0.7,t93z7j.7|<+08>-8"),
  ("Asia/Srednekolymsk", "36892,0;36000,0;43200,1;39600,0;39600,0;43200,1;39600,1;36000,0;43200,0;43200,1;39600,0|-nu1ogs.1,37a0os.3,qi27w0.2,9et80.3,9d440.2,9et80.3,9d440.2,9et80.3,9eys0.2,9d6w0.4,9d1c0.5,9d1c0.4,9d1c0.5,9d1c0.4,9d1c0.5,9d1c0.4,9d1c0.5,9d1c0.4,9d1c0.5,9d1c0.4,9d1c0.5,9q000.4,9d1c0.6,9d440.7,5reo0.4,3ljw0.5,9d1c0.4,9d1c0.5,9d1c0.4,9d1c0.5,9d1c0.4,9d1c0.5,9d1c0.4,9q000.5,asw00.4,7x6o0.5,asw00.4,7x6o0.5,asw00.4,7x6o0.5,b5uo0.4,7k800.5,b5uo0.4,7k800.5,b5uo0.4,7x6o0.5,asw00.4,7x6o0.5,asw00.4,7x6o0.5,b5uo0.4,7k800.5,b5uo0.4,7k800.5,b5uo0.4,7k800.5,b5uo0.4,7x6o0.5,asw00.4,7x6o0.5,asw00.4,7x6o0.5,b5uo0.4,7k800.8,1vbzw0.4,c4ju3j.4|<+11>-11"),
  ("Asia/Taipei", "29160,0;28800,0;32400,0;32400,1;28800,0|-12mch60.1,lsd1m0.2,45slc0.1,c51c0.3,75bw0.1,a31g0.3,aaak0.1,9d440.3,7v980.1,awo40.3,7v980.1,awo40.3,7v980.1,awo40.3,7v980.1,7tk40.3,clmk0.1,7rpg0.3,b07w0.1,7rpg0.3,b07w0.1,7rpg0.3,9et80.1,9eys0.3,9et80.1,9d440.3,9et80.1,9d440.3,9et80.1,9d440.3,9et80.1,cjxg0.3,69uk0.1,ci2s0.3,69uk0.1,6its40.3,9et80.1,9d440.3,9et80.1,1yf9g0.3,4qak0.1|CST-8"),
  ("Asia/Tashkent", "16631,0;18000,0;25200,1;21600,0;21600,0;25200,1;21600,1;18000,0|-nu18tz.1,379yxz.3,qi27w0.2,9et80.3,9d440.2,9et80.3,9d440.2,9et80.3,9eys0.2,9d6w0.4,9d1c0.5,9d1c0.4,9d1c0.5,9d1c0.4,9d1c0.5,9d1c0.4,9d1c0.5,9d1c0.4,9d1c0.5,9d1c0.4,9d1c0.5,9q000.4,9d1c0.6,9d440.7,o62pbj.7|<+05>-5"),
  ("Asia/Tbilisi", "10751,0;10751,0;10800,0;18000,1;14400,0;14400,0;18000,1;14400,1;10800,0;14400,1;14400,0|-1ayyayn.1,n4x6o0.2,h4tjyn.4,ckinw0.3,9et80.4,9d440.3,9et80.4,9d440.3,9et80.4,9eys0.3,9d6w0.5,9d1c0.6,9d1c0.5,9d1c0.6,9d1c0.5,9d1c0.6,9d1c0.5,9d1c0.6,9d1c0.5,9d1c0.6,9d1c0.5,9d1c0.6,9q000.5,9d1c0.7,9d440.8,9cvs0.9,9cyk0.2,9d440.9,9cyk0.2,9d440.9,9cyk0.4,9d1c0.3,9cyk0.4,9q2s0.3,ipzw0.3,asw00.4,7x9g0.3,ast80.4,7x9g0.3,b5rw0.4,7kas0.3,b5rw0.4,7kas0.3,b5rw0.4,7x9g0.3,ast80.4,7x9g0.3,ast80.4,7x9g0.3,4ofw0.9,6hn40.8,7k800.4,h4kmfj.4|<+04>-4"),
  ("Asia/Tehran", "12344,0;12344,0;16200,1;12600,0;18000,1;14400,0;16200,1;12600,0|-s6m6uw.1,a5dpc0.3,lsvh0w.2,ayg00.5,7z2q0.4,6uao0.5,51hc0.3,a4uq0.2,5wvw0.3,9gtg0.2,9kd80.3,5ja5g0.2,7avw0.3,9d440.2,9gnw0.3,9b9g0.2,9gnw0.3,9b9g0.2,9gnw0.3,9b9g0.2,9gnw0.3,9b9g0.2,9gnw0.3,9d440.2,9gnw0.3,9b9g0.2,9gnw0.3,9b9g0.2,9gnw0.3,9b9g0.2,9gnw0.3,9d440.2,9gnw0.3,9b9g0.2,9gnw0.3,9b9g0.2,9gnw0.3,9b9g0.2,9gnw0.3,9d440.2,9gnw0.3,1av440.2,9gnw0.3,9d440.2,9gnw0.3,9b9g0.2,9gnw0.3,9b9g0.2,9gnw0.3,9b9g0.2,9gnw0.3,9d440.2,9gnw0.3,9b9g0.2,9gnw0.3,9b9g0.2,9gnw0.3,9b9g0.2,9gnw0.3,9d440.2,9gnw0.3,9b9g0.2,9gnw0.3,9b9g0.2,9gnw0.3,9b9g0.2,9gnw0.3,9d440.2,9gnw0.3,9b9g0.2,9gnw0.3,7zz9hj.3|<+0330>-3:30"),
  ("Asia/Thimphu", "21516,0;19800,0;21600,0|-bojclo.1,kxymno.2,q94qxj.2|<+06>-6"),
  ("Asia/Tokyo", "33539,0;36000,1;32400,0;32400,0|-16snno0.3,vhjeo0.1,6uao0.2,afxc0.1,8a5c0.2,c8qo0.1,6hc00.2,c8qo0.1,6hc00.2|JST-9"),
  ("Asia/Tomsk", "20391,0;21600,0;28800,1;25200,0;25200,0;28800,1;25200,1;21600,0;25200,1;25200,0|-q3zbqf.1,5h7z2f.3,qi27w0.2,9et80.3,9d440.2,9et80.3,9d440.2,9et80.3,9eys0.2,9d6w0.4,9d1c0.5,9d1c0.4,9d1c0.5,9d1c0.4,9d1c0.5,9d1c0.4,9d1c0.5,9d1c0.4,9d1c0.5,9d1c0.4,9d1c0.5,9q000.4,9d1c0.6,9d440.7,5reo0.4,3ljw0.5,9d1c0.4,9d1c0.5,9d1c0.4,9d1c0.5,9d1c0.4,9d1c0.5,9d1c0.4,9q000.5,asw00.4,7x6o0.5,asw00.4,7x6o0.5,asw00.4,7x6o0.5,b5uo0.4,7k800.5,b5uo0.4,7k800.5,b5uo0.4,7x6o0.5,1leo0.8,97k40.7,7x6o0.6,asw00.7,7x6o0.6,b5uo0.7,7k800.6,b5uo0.7,7k800.6,b5uo0.7,7k800.6,b5uo0.7,7x6o0.6,asw00.7,7x6o0.6,asw00.7,7x6o0.6,b5uo0.7,7k800.4,1vbzw0.7,tw040.4,bang3j.4|<+07>-7"),
  ("Asia/Ulaanbaatar", "25652,0;25200,0;32400,1;28800,0|-xmcrsk.1,11sncck.3,2qk2k0.2,9et80.3,9eys0.2,9cyk0.3,9d440.2,9cyk0.3,9d440.2,9cyk0.3,9d440.2,9cyk0.3,9d440.2,9cyk0.3,9d440.2,9cyk0.3,9d440.2,9px80.3,9d440.2,9cyk0.3,9d440.2,9cyk0.3,9d440.2,9cyk0.3,9d440.2,9cyk0.3,9d440.2,9cyk0.3,9q2s0.2,9cyk0.3,9d440.2,9cyk0.3,9d440.2,9cyk0.3,1ckdo0.2,7x3w0.3,9d440.2,9cyk0.3,9d440.2,9cyk0.3,9d440.2,9cyk0.3,9d440.2,9cyk0.3,9d440.2,9px80.3,4fio40.2,9ct00.3,9d9o0.2,9ct00.3,b4lbbj.3|<+08>-8"),
  ("Asia/Urumqi", "21020,0;21600,0|-lx5pjw.1,1lfpqjf.1|<+06>-6"),
  ("Asia/Ust-Nera", "34374,0;28800,0;32400,0;39600,0;43200,1;39600,0;43200,1;39600,1;36000,0;43200,0;43200,1;36000,0|-q4cl6u.1,5hl2yu.2,qi27w0.4,9eno0.3,9d440.4,9et80.3,9d440.4,9et80.3,9eys0.4,9d6w0.5,9d1c0.6,9d1c0.5,9d1c0.6,9d1c0.5,9d1c0.6,9d1c0.5,9d1c0.6,9d1c0.5,9d1c0.6,9d1c0.5,9d1c0.6,9q000.5,9d1c0.7,9d440.8,5reo0.5,3ljw0.6,9d1c0.5,9d1c0.6,9d1c0.5,9d1c0.6,9d1c0.5,9d1c0.6,9d1c0.5,9q000.6,asw00.5,7x6o0.6,asw00.5,7x6o0.6,asw00.5,7x6o0.6,b5uo0.5,7k800.6,b5uo0.5,7k800.6,b5uo0.5,7x6o0.6,asw00.5,7x6o0.6,asw00.5,7x6o0.6,b5uo0.5,7k800.6,b5uo0.5,7k800.6,b5uo0.5,7k800.6,b5uo0.5,7x6o0.6,asw00.5,7x6o0.6,asw00.5,7x6o0.6,b5uo0.5,7k800.9,8ql00.5,1mlho0.8,c4jrbj.8|<+10>-10"),
  ("Asia/Vientiane", "24624,0;25590,0;25200,0;28800,0;32400,0;25200,0|-x568c0.1,2ishx6.2,gj25iu.3,15ct80.4,8so00.2,tmtk0.3,470yk0.2,1772cjj.2|<+07>-7"),
  ("Asia/Vladivostok", "31651,0;32400,0;39600,1;36000,0;36000,0;39600,1;36000,1;32400,0;39600,0;39600,1;36000,0|-oligf7.1,3yqvf7.3,qi27w0.2,9et80.3,9d440.2,9et80.3,9d440.2,9et80.3,9eys0.2,9d6w0.4,9d1c0.5,9d1c0.4,9d1c0.5,9d1c0.4,9d1c0.5,9d1c0.4,9d1c0.5,9d1c0.4,9d1c0.5,9d1c0.4,9d1c0.5,9q000.4,9d1c0.6,9d440.7,5reo0.4,3ljw0.5,9d1c0.4,9d1c0.5,9d1c0.4,9d1c0.5,9d1c0.4,9d1c0.5,9d1c0.4,9q000.5,asw00.4,7x6o0.5,asw00.4,7x6o0.5,asw00.4,7x6o0.5,b5uo0.4,7k800.5,b5uo0.4,7k800.5,b5uo0.4,7x6o0.5,asw00.4,7x6o0.5,asw00.4,7x6o0.5,b5uo0.4,7k800.5,b5uo0.4,7k800.5,b5uo0.4,7k800.5,b5uo0.4,7x6o0.5,asw00.4,7x6o0.5,asw00.4,7x6o0.5,b5uo0.4,7k800.8,1vbzw0.4,c4jrbj.4|<+10>-10"),
  ("Asia/Yakutsk", "31138,0;28800,0;36000,1;32400,0;32400,0;36000,1;32400,1;28800,0;36000,0;36000,1;32400,0|-q4cioy.1,5hl0gy.3,qi27w0.2,9et80.3,9d440.2,9et80.3,9d440.2,9et80.3,9eys0.2,9d6w0.4,9d1c0.5,9d1c0.4,9d1c0.5,9d1c0.4,9d1c0.5,9d1c0.4,9d1c0.5,9d1c0.4,9d1c0.5,9d1c0.4,9d1c0.5,9q000.4,9d1c0.6,9d440.7,5reo0.4,3ljw0.5,9d1c0.4,9d1c0.5,9d1c0.4,9d1c0.5,9d1c0.4,9d1c0.5,9d1c0.4,9q000.5,asw00.4,7x6o0.5,asw00.4,7x6o0.5,asw00.4,7x6o0.5,b5uo0.4,7k800.5,b5uo0.4,7k800.5,b5uo0.4,7x6o0.5,asw00.4,7x6o0.5,asw00.4,7x6o0.5,b5uo0.4,7k800.5,b5uo0.4,7k800.5,b5uo0.4,7k800.5,b5uo0.4,7x6o0.5,asw00.4,7x6o0.5,asw00.4,7x6o0.5,b5uo0.4,7k800.8,1vbzw0.4,c4jojj.4|<+09>-9"),
  ("Asia/Yangon", "23087,0;23087,0;23400,0;32400,0;23400,0|-1ayykhb.1,kvhpc0.2,bnjp3b.3,1kh520.2,1ce01zj.2|<+0630>-6:30"),
  ("Asia/Yekaterinburg", "14553,0;13505,0;14400,0;21600,1;18000,0;18000,0;21600,1;18000,1;14400,0;21600,0;21600,1;18000,0|-rx5hw9.1,1kybx4.2,5pfyv5.4,qi27w0.3,9et80.4,9d440.3,9et80.4,9d440.3,9et80.4,9eys0.3,9d6w0.5,9d1c0.6,9d1c0.5,9d1c0.6,9d1c0.5,9d1c0.6,9d1c0.5,9d1c0.6,9d1c0.5,9d1c0.6,9d1c0.5,9d1c0.6,9q000.5,9d1c0.7,9d440.8,5reo0.5,3ljw0.6,9d1c0.5,9d1c0.6,9d1c0.5,9d1c0.6,9d1c0.5,9d1c0.6,9d1c0.5,9q000.6,asw00.5,7x6o0.6,asw00.5,7x6o0.6,asw00.5,7x6o0.6,b5uo0.5,7k800.6,b5uo0.5,7k800.6,b5uo0.5,7x6o0.6,asw00.5,7x6o0.6,asw00.5,7x6o0.6,b5uo0.5,7k800.6,b5uo0.5,7k800.6,b5uo0.5,7k800.6,b5uo0.5,7x6o0.6,asw00.5,7x6o0.6,asw00.5,7x6o0.6,b5uo0.5,7k800.9,1vbzw0.5,c4jdfj.5|<+05>-5"),
  ("Asia/Yerevan", "10680,0;10800,0;18000,1;14400,0;14400,0;18000,1;14400,1;10800,0;18000,1;14400,0|-nu148o.1,h4tjwo.3,ckinw0.2,9et80.3,9d440.2,9et80.3,9d440.2,9et80.3,9eys0.2,9d6w0.4,9d1c0.5,9d1c0.4,9d1c0.5,9d1c0.4,9d1c0.5,9d1c0.4,9d1c0.5,9d1c0.4,9d1c0.5,9d1c0.4,9d1c0.5,9q000.4,9d1c0.6,9d440.7,9d1c0.6,9d1c0.7,9d1c0.6,9d1c0.7,9d1c0.6,9d1c0.7,9d1c0.6,9d1c0.4,sfzw0.5,asw00.4,7x6o0.5,asw00.4,7x6o0.5,b5uo0.4,7k800.5,b5uo0.4,7k800.5,b5uo0.4,7x6o0.5,asw00.4,7x6o0.5,asw00.4,7x6o0.5,b5uo0.4,7k800.5,b5uo0.4,7k800.5,b5uo0.4,7k800.5,b5uo0.4,7x6o0.5,asw00.4,7x6o0.5,asw00.4,7x6o0.5,b5uo0.4,7k800.5,b5uo0.4,dopfvj.4|<+04>-4"),
  ("Atlantic/Azores", "-6160,0;-6872,0;-3600,1;-7200,0;-3600,1;-7200,0;-7200,0;0,1;-3600,0;0,1;-3600,0;3600,1;0,0;0,1;-3600,0|-18vsdww.1,em124w.6,2bufw0.2,6zxg0.3,66800.2,bq580.3,71s40.2,bq580.3,71s40.2,bq580.3,73ms0.2,bq580.3,71s40.2,bq580.3,1b2g00.4,8so00.5,st1c0.4,8n400.5,9q000.4,902o0.5,a2yo0.4,902o0.5,a2yo0.4,8n400.5,st1c0.4,8n400.5,9d1c0.4,9d1c0.5,sg2o0.4,9d1c0.5,902o0.4,9q000.5,a2yo0.4,8n400.5,9d1c0.4,9d1c0.5,902o0.4,9q000.5,a2yo0.4,b5uo0.5,51hc0.4,bmio0.5,99c00.4,9ew00.5,88ao0.4,25p80.7,5reo0.4,3lpg0.5,779c0.4,1sqk0.7,6uao0.4,38qs0.5,6uao0.4,25p80.7,6hc00.4,38qs0.5,6uao0.4,25p80.7,6hc00.4,38qs0.5,8a5c0.4,9d1c0.5,9d9o0.4,9d1c0.5,9d1c0.4,9d1c0.5,9d1c0.4,9d1c0.5,9d1c0.4,9d1c0.5,9d1c0.4,9q000.5,9d1c0.4,9d1c0.5,9d1c0.4,9d1c0.5,9d1c0.4,9d1c0.5,9d1c0.4,9d1c0.5,9d1c0.4,9q000.5,9d1c0.4,9d1c0.5,9d1c0.4,9d1c0.5,9d1c0.4,9d1c0.5,9d1c0.4,9d1c0.5,9d1c0.4,9d1c0.5,9d1c0.4,9q000.5,9d1c0.4,9d1c0.5,9d1c0.4,9d1c0.5,9d1c0.4,9d1c0.5,9d1c0.4,9d1c0.8,82xuc0.7,9d1c0.8,9d1c0.7,9d1c0.8,9d1c0.7,9q000.8,9d1c0.7,9d1c0.8,9d1c0.9,9d1c0.a,9d1c0.9,9d1c0.a,9d1c0.9,9d1c0.a,9d1c0.9,9d1c0.a,9d1c0.9,9q000.a,9d1c0.9,9d1c0.a,9d1c0.9,9d1c0.a,4olg0.c,4ofw0.b,46000.9,571c0.a,9d1c0.9,9d1c0.a,9d1c0.9,9d1c0.a,9q000.9,asw00.a,7x6o0.9,asw00.a,7x6o0.9,asw00.a,7x6o0.9,b5uo0.a,7k800.9,b5uo0.a,7k800.9,b5uo0.a,7x6o0.9,asw00.a,7x6o0.9,asw00.a,7x6o0.9,b5uo0.a,7k800.9,b5uo0.a,7k800.9,b5uo0.a,7k800.9,b5uo0.a,7x6o0.9,asw00.a,7x6o0.9,asw00.a,7x6o0.9,b5uo0.a,7k800.9,b5uo0.a,7k800.9,b5uo0.a,7x6o0.9,asw00.a,7x6o0.9,asw00.a,7x6o0.9,asw00.a,7x6o0.9,b5uo0.a,7k800.9,b5uo0.a,7k800.9,b5uo0.a,7x6o0.9,asw00.a,7x6o0.9,asw00.a,7x6o0.9,b5uo0.a,7k800.9,b5uo0.a,7k800.9,b5uo0.a,7x6o0.9,asw00.a,7x6o0.9,asw00.a,7x6o0.9,asw00.a,7x6o0.9,b5uo0.a,7k800.9,b5uo0.a,7k800.9,b5uo0.a,7x6o0.9,asw00.a,7x6o0.9,asw00.a,7x6o0.9,b5uo0.a,7k800.9,b5uo0.a,7k800.9,b5uo0.a,7k800.9,b5uo0.a,7x6o0.9,asw00.a,7x6o0.9,asw00.a,4ffjj.a|<-01>1<+00>,M3.5.0/0,M10.5.0/1"),
  ("Atlantic/Bermuda", "-15558,0;-11958,1;-15558,0;-10800,1;-14400,0|-15r0xbu.2,e851c0.1,95jw0.2,a16s0.1,7yyk0.2,5w74c0.4,69z5ru.3,eefw0.4,7x9g0.3,biqk0.4,6udg0.3,c8nw0.4,6hes0.3,c8nw0.4,st440.3,64ak0.4,cyqs0.3,5ed80.4,dbpg0.3,5ed80.4,doo40.3,51ek0.4,doo40.3,51ek0.4,doo40.3,5ed80.4,1xuw40.3,7x3w0.4,94r9g0.3,9cyk0.4,9d440.3,9cyk0.4,9d440.3,9px80.4,905g0.3,9px80.4,9d440.3,9cyk0.4,9d440.3,9cyk0.4,9d440.3,9cyk0.4,9d440.3,9cyk0.4,9d440.3,9px80.4,905g0.3,9px80.4,9d440.3,9cyk0.4,9d440.3,9cyk0.4,9d440.3,9cyk0.4,8a840.3,afuk0.4,8a840.3,ast80.4,7x9g0.3,ast80.4,7x9g0.3,ast80.4,8a840.3,afuk0.4,8a840.3,afuk0.4,8a840.3,ast80.4,7x9g0.3,ast80.4,7x9g0.3,ast80.4,8a840.3,afuk0.4,8a840.3,afuk0.4,8a840.3,afuk0.4,8a840.3,ast80.4,7x9g0.3,ast80.4,7x9g0.3,ast80.4,8a840.3,afuk0.4,8a840.3,afuk0.4,8a840.3,ast80.4,7x9g0.3,ast80.4,7x9g0.3,ast80.4,6udg0.3,c8nw0.4,6hes0.3,c8nw0.4,6hes0.3,c8nw0.4,6udg0.3,c8nw0.4,6hes0.3,c8nw0.4,6hes0.3,c8nw0.4,6hes0.3,c8nw0.4,6hes0.3,c8nw0.4,6hes0.3,c8nw0.4,6udg0.3,c8nw0.4,6hes0.3,c8nw0.4,6hes0.3,c8nw0.4,6hes0.3,c8nw0.4,6hes0.3,c8nw0.4,6udg0.3,c8nw0.4,6hes0.3,c8nw0.4,6hes0.3,c8nw0.4,6hes0.3,c8nw0.4,6hes0.3,c8nw0.4,6hes0.3,c8nw0.4,6udg0.3,c8nw0.4,6hes0.3,c8nw0.4,6hes0.3,c8nw0.4,6hes0.3,c8nw0.4,6hes0.3,c8nw0.4,6udg0.3,c8nw0.4,6hes0.3,c8nw0.4,6hes0.3,c8nw0.4,6hes0.3,c8nw0.4,6hes0.3,c8nw0.4,6hes0.3,c8nw0.4|AST4ADT,M3.2.0,M11.1.0"),
  ("Atlantic/Canary", "-3696,0;-3600,0;0,0;3600,1;0,0;3600,1|-oytbtc.1,ctvupc.2,hhq7s0.3,905g0.4,9d1c0.5,9d1c0.4,9d1c0.5,9d1c0.4,9d1c0.5,9d1c0.4,9d1c0.5,9q000.4,9d1c0.5,9d1c0.4,9d1c0.5,9d1c0.4,9d1c0.5,9d1c0.4,9d1c0.5,9d1c0.4,9d1c0.5,9d1c0.4,9d1c0.5,9q000.4,9d1c0.5,9d1c0.4,9d1c0.5,9d1c0.4,9d1c0.5,9d1c0.4,9d1c0.5,9d1c0.4,9d1c0.5,9d1c0.4,9q000.5,asw00.4,7x6o0.5,asw00.4,7x6o0.5,asw00.4,7x6o0.5,b5uo0.4,7k800.5,b5uo0.4,7k800.5,b5uo0.4,7x6o0.5,asw00.4,7x6o0.5,asw00.4,7x6o0.5,b5uo0.4,7k800.5,b5uo0.4,7k800.5,b5uo0.4,7k800.5,b5uo0.4,7x6o0.5,asw00.4,7x6o0.5,asw00.4,7x6o0.5,b5uo0.4,7k800.5,b5uo0.4,7k800.5,b5uo0.4,7x6o0.5,asw00.4,7x6o0.5,asw00.4,7x6o0.5,asw00.4,7x6o0.5,b5uo0.4,7k800.5,b5uo0.4,7k800.5,b5uo0.4,7x6o0.5,asw00.4,7x6o0.5,asw00.4,7x6o0.5,b5uo0.4,7k800.5,b5uo0.4,7k800.5,b5uo0.4,7x6o0.5,asw00.4,7x6o0.5,asw00.4,7x6o0.5,asw00.4,7x6o0.5,b5uo0.4,7k800.5,b5uo0.4,7k800.5,b5uo0.4,7x6o0.5,asw00.4,7x6o0.5,asw00.4,7x6o0.5,b5uo0.4,7k800.5,b5uo0.4,7k800.5,b5uo0.4,7k800.5,b5uo0.4,7x6o0.5,asw00.4,7x6o0.5,asw00.4|WET0WEST,M3.5.0/1,M10.5.0"),
  ("Atlantic/Cape_Verde", "-5644,0;-7200,0;-3600,1;-7200,0;-3600,0|-u9rbs0.1,g06lc0.2,1mn180.3,fpqwc0.4,wfqtvj.4|<-01>1"),
  ("Atlantic/Faroe", "-1624,0;0,0;3600,1;0,0|-wcehew.1,127keuw.2,9d1c0.3,9d1c0.2,9d1c0.3,9d1c0.2,9d1c0.3,9d1c0.2,9q000.3,9d1c0.2,9d1c0.3,9d1c0.2,9d1c0.3,9d1c0.2,9d1c0.3,9d1c0.2,9d1c0.3,9d1c0.2,9d1c0.3,9d1c0.2,9q000.3,9d1c0.2,9d1c0.3,9d1c0.2,9d1c0.3,9d1c0.2,9d1c0.3,9d1c0.2,9d1c0.3,9d1c0.2,9d1c0.3,9q000.2,asw00.3,7x6o0.2,asw00.3,7x6o0.2,asw00.3,7x6o0.2,b5uo0.3,7k800.2,b5uo0.3,7k800.2,b5uo0.3,7x6o0.2,asw00.3,7x6o0.2,asw00.3,7x6o0.2,b5uo0.3,7k800.2,b5uo0.3,7k800.2,b5uo0.3,7k800.2,b5uo0.3,7x6o0.2,asw00.3,7x6o0.2,asw00.3,7x6o0.2,b5uo0.3,7k800.2,b5uo0.3,7k800.2,b5uo0.3,7x6o0.2,asw00.3,7x6o0.2,asw00.3,7x6o0.2,asw00.3,7x6o0.2,b5uo0.3,7k800.2,b5uo0.3,7k800.2,b5uo0.3,7x6o0.2,asw00.3,7x6o0.2,asw00.3,7x6o0.2,b5uo0.3,7k800.2,b5uo0.3,7k800.2,b5uo0.3,7x6o0.2,asw00.3,7x6o0.2,asw00.3,7x6o0.2,asw00.3,7x6o0.2,b5uo0.3,7k800.2,b5uo0.3,7k800.2,b5uo0.3,7x6o0.2,asw00.3,7x6o0.2,asw00.3,7x6o0.2,b5uo0.3,7k800.2,b5uo0.3,7k800.2,b5uo0.3,7k800.2,b5uo0.3,7x6o0.2,asw00.3,7x6o0.2,asw00.3|WET0WEST,M3.5.0/1,M10.5.0"),
  ("Atlantic/Madeira", "-4056,0;-4056,0;0,1;-3600,0;0,1;-3600,0;-3600,0;3600,1;0,0;3600,1;3600,1;0,0;3600,1|-18vsfjc.1,em10zc.6,2bufw0.2,6zxg0.3,66800.2,bq580.3,71s40.2,bq580.3,71s40.2,bq580.3,73ms0.2,bq580.3,71s40.2,bq580.3,1b2g00.4,8so00.5,st1c0.4,8n400.5,9q000.4,902o0.5,a2yo0.4,902o0.5,a2yo0.4,8n400.5,st1c0.4,8n400.5,9d1c0.4,9d1c0.5,sg2o0.4,9d1c0.5,902o0.4,9q000.5,a2yo0.4,8n400.5,9d1c0.4,9d1c0.5,902o0.4,9q000.5,a2yo0.4,b5uo0.5,51hc0.4,bmio0.5,99c00.4,9ew00.5,88ao0.4,25p80.7,5reo0.4,3lpg0.5,779c0.4,1sqk0.7,6uao0.4,38qs0.5,6uao0.4,25p80.7,6hc00.4,38qs0.5,6uao0.4,25p80.7,6hc00.4,38qs0.5,8a5c0.4,9d1c0.5,9d9o0.4,9d1c0.5,9d1c0.4,9d1c0.5,9d1c0.4,9d1c0.5,9d1c0.4,9d1c0.5,9d1c0.4,9q000.5,9d1c0.4,9d1c0.5,9d1c0.4,9d1c0.5,9d1c0.4,9d1c0.5,9d1c0.4,9d1c0.5,9d1c0.4,9q000.5,9d1c0.4,9d1c0.5,9d1c0.4,9d1c0.5,9d1c0.4,9d1c0.5,9d1c0.4,9d1c0.5,9d1c0.4,9d1c0.5,9d1c0.4,9q000.5,9d1c0.4,9d1c0.5,9d1c0.4,9d1c0.5,9d1c0.4,9d1c0.5,9d1c0.4,9d1c0.8,83at00.a,902o0.8,9d1c0.9,9d1c0.8,9d1c0.9,9q000.8,9d1c0.9,9d1c0.8,9d1c0.9,9d440.b,9d1c0.c,9d1c0.b,9d1c0.c,9d1c0.b,9d1c0.c,9d1c0.b,9d1c0.c,9q000.b,9d1c0.c,9d1c0.b,9d1c0.c,9d1c0.b,9d1c0.c,9d1c0.b,9d1c0.c,9d1c0.b,9d1c0.c,9d1c0.b,9q000.c,asw00.b,7x6o0.c,asw00.b,7x6o0.c,asw00.b,7x6o0.c,b5uo0.b,7k800.c,b5uo0.b,7k800.c,b5uo0.b,7x6o0.c,asw00.b,7x6o0.c,asw00.b,7x6o0.c,b5uo0.b,7k800.c,b5uo0.b,7k800.c,b5uo0.b,7k800.c,b5uo0.b,7x6o0.c,asw00.b,7x6o0.c,asw00.b,7x6o0.c,b5uo0.b,7k800.c,b5uo0.b,7k800.c,b5uo0.b,7x6o0.c,asw00.b,7x6o0.c,asw00.b,7x6o0.c,asw00.b,7x6o0.c,b5uo0.b,7k800.c,b5uo0.b,7k800.c,b5uo0.b,7x6o0.c,asw00.b,7x6o0.c,asw00.b,7x6o0.c,b5uo0.b,7k800.c,b5uo0.b,7k800.c,b5uo0.b,7x6o0.c,asw00.b,7x6o0.c,asw00.b,7x6o0.c,asw00.b,7x6o0.c,b5uo0.b,7k800.c,b5uo0.b,7k800.c,b5uo0.b,7x6o0.c,asw00.b,7x6o0.c,asw00.b,7x6o0.c,b5uo0.b,7k800.c,b5uo0.b,7k800.c,b5uo0.b,7k800.c,b5uo0.b,7x6o0.c,asw00.b,7x6o0.c,asw00.b|WET0WEST,M3.5.0/1,M10.5.0"),
  ("Atlantic/Reykjavik", "-5280,0;0,1;-3600,0;-3600,0;0,1;0,0|-wcwx9c.2,4rpd9c.1,ci2s0.2,69uk0.1,du840.2,4xp80.1,du840.2,p7bw0.1,4w040.2,9bdzw0.1,9d6w0.2,64g40.1,cyl80.3,64dc0.4,clpc0.3,6hc00.4,bvs00.3,6uao0.4,bvs00.3,6uao0.4,bvs00.3,6uao0.4,c8qo0.3,6hc00.4,c8qo0.3,8a5c0.4,afxc0.3,8a5c0.4,afxc0.3,8a5c0.4,asw00.3,7x6o0.4,afxc0.3,8a5c0.4,asw00.3,8a5c0.4,afxc0.3,8a5c0.4,afxc0.3,8a5c0.4,afxc0.3,8a5c0.4,afxc0.3,8a5c0.4,asw00.3,8a5c0.4,afxc0.3,8a5c0.4,afxc0.3,8a5c0.4,afxc0.3,8a5c0.4,afxc0.3,8a5c0.4,afxc0.3,8a5c0.4,asw00.3,8a5c0.4,afxc0.3,8a5c0.4,afxc0.3,8a5c0.4,afxc0.3,8a5c0.4,afxc0.3,8a5c0.4,asw00.3,8a5c0.5|GMT0"),
  ("Atlantic/South_Georgia", "-8768,0;-7200,0|-15r12kg.1,259l3jz.1|<-02>2"),
  ("Atlantic/St_Helena", "-1368,0;-1368,0;0,0|-15r18a0.1,vu1eo0.2|GMT0"),
  ("Atlantic/Stanley", "-13884,0;-13884,0;-10800,1;-14400,0;-7200,1;-10800,0;-10800,1|-15r0ymc.1,bkx9c0.3,dbvxqc.2,8zzw0.3,9q2s0.2,8zzw0.3,a31g0.2,8zzw0.3,9q2s0.2,8zzw0.3,9q2s0.2,8zzw0.3,9q2s0.2,4xp80.3,l1pus0.5,7k580.4,b5rw0.5,77c40.4,biqk0.5,77c40.2,b5uo0.3,7kas0.2,b5rw0.3,7kas0.2,b5rw0.3,7kas0.2,b5rw0.3,7kas0.2,biqk0.3,77c40.2,biqk0.3,7kas0.2,b5rw0.3,7kas0.2,b5rw0.3,7kas0.2,b5rw0.3,7kas0.2,b5rw0.3,7kas0.2,biqk0.3,7kas0.2,b5rw0.3,7kas0.2,b5rw0.3,7kas0.2,b5rw0.3,7kas0.2,b5rw0.3,7kas0.2,b5xg0.3,77c40.2,bvp80.3,6udg0.2,bvp80.3,77c40.2,biqk0.3,77c40.2,biqk0.3,77c40.2,biqk0.3,77c40.2,biqk0.3,77c40.2,bvp80.3,77c40.2,biqk0.3,77c40.2,biqk0.3,77c40.5,eaalnj.5|<-03>3"),
  ("Australia/Adelaide", "33260,0;32400,0;37800,1;34200,0;34200,0|-133j2zw.1,27qdzw.4,97zyu0.2,49pc0.3,cxfk00.2,4h400.3,9d1c0.2,9d1c0.3,9q000.2,902o0.3,eeio00.2,64dc0.3,clpc0.2,6hc00.3,c8qo0.2,6hc00.3,c8qo0.2,6hc00.3,c8qo0.2,6uao0.3,c8qo0.2,6hc00.3,c8qo0.2,6hc00.3,c8qo0.2,6hc00.3,c8qo0.2,6hc00.3,c8qo0.2,6hc00.3,c8qo0.2,6uao0.3,c8qo0.2,6hc00.3,c8qo0.2,6hc00.3,c8qo0.2,6hc00.3,c8qo0.2,779c0.3,b5uo0.2,7k800.3,bitc0.2,7k800.3,bitc0.2,779c0.3,bitc0.2,779c0.3,bitc0.2,6hc00.3,c8qo0.2,7k800.3,b5uo0.2,6uao0.3,c8qo0.2,779c0.3,bitc0.2,7k800.3,b5uo0.2,7x6o0.3,asw00.2,7x6o0.3,asw00.2,7x6o0.3,asw00.2,7x6o0.3,b5uo0.2,7k800.3,b5uo0.2,7k800.3,b5uo0.2,7x6o0.3,asw00.2,7x6o0.3,asw00.2,7x6o0.3,b5uo0.2,7k800.3,b5uo0.2,7x6o0.3,asw00.2,7k800.3,b5uo0.2,8a5c0.3,9d1c0.2,9d1c0.3,9d1c0.2,9d1c0.3,9d1c0.2,9d1c0.3,9d1c0.2,9d1c0.3,9q000.2,9d1c0.3,9d1c0.2,9d1c0.3,9d1c0.2,9d1c0.3,9d1c0.2,9d1c0.3,9d1c0.2,9d1c0.3,9d1c0.2,9d1c0.3,9q000.2,9d1c0.3,9d1c0.2,9d1c0.3,9d1c0.2,9d1c0.3,9d1c0.2,9d1c0.3,9d1c0.2,9d1c0.3,9d1c0.2,9q000.3,9d1c0.2,9d1c0.3,9d1c0.2,9d1c0.3,9d1c0.2,9d1c0.3,9d1c0.2,9d1c0.3,9d1c0.2,9d1c0.3,9q000.2,9d1c0.3,9d1c0.2,9d1c0.3,9d1c0.2,9d1c0.3,9d1c0.2,9d1c0.3,9d1c0.2,9d1c0.3,9d1c0.2,9d1c0.3,9q000.2,9d1c0.3,9d1c0.2,9d1c0.3,9d1c0.2|ACST-9:30ACDT,M10.1.0,M4.1.0/3"),
  ("Australia/Brisbane", "36728,0;39600,1;36000,0;36000,0|-1354kc8.3,bhbss8.1,49pc0.2,cxfk00.1,4h400.2,9d1c0.1,9d1c0.2,9q000.1,902o0.2,eeio00.1,64dc0.2,97zuo0.1,6hc00.2,c8qo0.1,6hc00.2,c8qo0.1,6hc00.2|AEST-10"),
  ("Australia/Broken_Hill", "33948,0;36000,0;32400,0;37800,1;34200,0;34200,0|-133j3j0.1,t9nr0.2,1egqs0.5,97zyu0.3,49pc0.4,cxfk00.3,4h400.4,9d1c0.3,9d1c0.4,9q000.3,902o0.4,eeio00.3,64dc0.4,clpc0.3,6hc00.4,c8qo0.3,6hc00.4,c8qo0.3,6hc00.4,c8qo0.3,6uao0.4,c8qo0.3,6hc00.4,c8qo0.3,6hc00.4,c8qo0.3,6hc00.4,c8qo0.3,6hc00.4,c8qo0.3,6hc00.4,c8qo0.3,8a5c0.4,asw00.3,6hc00.4,c8qo0.3,6hc00.4,c8qo0.3,6hc00.4,c8qo0.3,779c0.4,b5uo0.3,7k800.4,bitc0.3,7k800.4,bitc0.3,779c0.4,bitc0.3,6hc00.4,c8qo0.3,6hc00.4,c8qo0.3,6hc00.4,c8qo0.3,6uao0.4,c8qo0.3,6hc00.4,c8qo0.3,6hc00.4,c8qo0.3,7x6o0.4,asw00.3,7x6o0.4,asw00.3,7x6o0.4,asw00.3,7x6o0.4,b5uo0.3,7k800.4,b5uo0.3,7k800.4,b5uo0.3,7x6o0.4,asw00.3,7x6o0.4,asw00.3,7x6o0.4,b5uo0.3,7k800.4,b5uo0.3,7x6o0.4,asw00.3,7k800.4,b5uo0.3,8a5c0.4,9d1c0.3,9d1c0.4,9d1c0.3,9d1c0.4,9d1c0.3,9d1c0.4,9d1c0.3,9d1c0.4,9q000.3,9d1c0.4,9d1c0.3,9d1c0.4,9d1c0.3,9d1c0.4,9d1c0.3,9d1c0.4,9d1c0.3,9d1c0.4,9d1c0.3,9d1c0.4,9q000.3,9d1c0.4,9d1c0.3,9d1c0.4,9d1c0.3,9d1c0.4,9d1c0.3,9d1c0.4,9d1c0.3,9d1c0.4,9d1c0.3,9q000.4,9d1c0.3,9d1c0.4,9d1c0.3,9d1c0.4,9d1c0.3,9d1c0.4,9d1c0.3,9d1c0.4,9d1c0.3,9d1c0.4,9q000.3,9d1c0.4,9d1c0.3,9d1c0.4,9d1c0.3,9d1c0.4,9d1c0.3,9d1c0.4,9d1c0.3,9d1c0.4,9d1c0.3,9d1c0.4,9q000.3,9d1c0.4,9d1c0.3,9d1c0.4,9d1c0.3|ACST-9:30ACDT,M10.1.0,M4.1.0/3"),
  ("Australia/Darwin", "31400,0;32400,0;37800,1;34200,0;34200,0|-133j1k8.1,27qck8.4,97zyu0.2,49pc0.3,cxfk00.2,4h400.3,9d1c0.2,9d1c0.3,9q000.2,902o0.3|ACST-9:30"),
  ("Australia/Eucla", "30928,0;35100,1;31500,0;31500,0|-12nxx74.3,b05944.1,49pc0.2,cxfk00.1,4h400.2,9d1c0.1,9d1c0.2,gheyo0.1,6hc00.2,4ir9c0.1,6hc00.2,40r400.1,5eg00.2,7p9hc0.1,5reo0.2,b5uo0.1,7x6o0.2,asw00.1,7x6o0.2,f1bt2j.2|<+0845>-8:45"),
  ("Australia/Hobart", "35356,0;39600,1;36000,0;36000,0|-12smja4.3,b03ee4.1,902o0.2,b5uo0.1,6hc00.2,c8qo0.1,6hc00.2,bx2ao0.1,4h400.2,9d1c0.1,9d1c0.2,9q000.1,902o0.2,c9tk00.1,9d1c0.2,asw00.1,6uao0.2,bvs00.1,6uao0.2,bvs00.1,779c0.2,bvs00.1,64dc0.2,clpc0.1,6hc00.2,c8qo0.1,6hc00.2,c8qo0.1,6hc00.2,c8qo0.1,6uao0.2,c8qo0.1,6hc00.2,c8qo0.1,6hc00.2,c8qo0.1,6hc00.2,c8qo0.1,6hc00.2,c8qo0.1,6hc00.2,c8qo0.1,7x6o0.2,b5uo0.1,7k800.2,b5uo0.1,6hc00.2,c8qo0.1,6hc00.2,c8qo0.1,6hc00.2,bvs00.1,7k800.2,bitc0.1,7k800.2,bitc0.1,779c0.2,bitc0.1,779c0.2,bitc0.1,7x6o0.2,9q000.1,902o0.2,9q000.1,902o0.2,9q000.1,902o0.2,9q000.1,902o0.2,9q000.1,9d1c0.2,9q000.1,902o0.2,9q000.1,902o0.2,9q000.1,902o0.2,9q000.1,902o0.2,7x6o0.1,asw00.2,a2yo0.1,902o0.2,9q000.1,902o0.2,9q000.1,902o0.2,9q000.1,902o0.2,9q000.1,9d1c0.2,9d1c0.1,902o0.2,a2yo0.1,9d1c0.2,9d1c0.1,9d1c0.2,9d1c0.1,9d1c0.2,9d1c0.1,9d1c0.2,9d1c0.1,9d1c0.2,9q000.1,9d1c0.2,9d1c0.1,9d1c0.2,9d1c0.1,9d1c0.2,9d1c0.1,9d1c0.2,9d1c0.1,9d1c0.2,9d1c0.1,9d1c0.2,9q000.1,9d1c0.2,9d1c0.1,9d1c0.2,9d1c0.1,9d1c0.2,9d1c0.1,9d1c0.2,9d1c0.1,9d1c0.2,9d1c0.1,9q000.2,9d1c0.1,9d1c0.2,9d1c0.1,9d1c0.2,9d1c0.1,9d1c0.2,9d1c0.1,9d1c0.2,9d1c0.1,9d1c0.2,9q000.1,9d1c0.2,9d1c0.1,9d1c0.2,9d1c0.1,9d1c0.2,9d1c0.1,9d1c0.2,9d1c0.1,9d1c0.2,9d1c0.1,9d1c0.2,9q000.1,9d1c0.2,9d1c0.1,9d1c0.2,9d1c0.1|AEST-10AEDT,M10.1.0,M4.1.0/3"),
  ("Australia/Lindeman", "35756,0;39600,1;36000,0;36000,0|-1354jl8.3,bhbs18.1,49pc0.2,cxfk00.1,4h400.2,9d1c0.1,9d1c0.2,9q000.1,902o0.2,eeio00.1,64dc0.2,97zuo0.1,6hc00.2,c8qo0.1,6hc00.2,c8qo0.1,6hc00.2,c8qo0.1,6uao0.2,c8qo0.1,6hc00.2|AEST-10"),
  ("Australia/Lord_Howe", "38180,0;36000,0;41400,1;37800,0;39600,1|-133j6sk.1,18x8f0k.3,c8uu0.2,6u7w0.3,c8tg0.2,6h980.3,c8tg0.2,6h980.3,c8tg0.2,6h980.3,c8tg0.4,777y0.3,b5w20.4,7k6m0.3,biuq0.4,7k6m0.3,biuq0.4,777y0.3,biuq0.4,6ham0.3,c8s20.4,6ham0.3,c8s20.4,6ham0.3,c8s20.4,6u9a0.3,c8s20.4,6ham0.3,c8s20.4,6ham0.3,c8s20.4,7x5a0.3,asxe0.4,7x5a0.3,asxe0.4,7x5a0.3,asxe0.4,7x5a0.3,b5w20.4,7k6m0.3,7x820.4,asum0.3,b5w20.4,7x5a0.3,asxe0.4,7x5a0.3,asxe0.4,7x5a0.3,b5w20.4,7k6m0.3,b5w20.4,7x5a0.3,asxe0.4,7k6m0.3,b5w20.4,8a3y0.3,9d2q0.4,9czy0.3,9d2q0.4,9czy0.3,9d2q0.4,9czy0.3,9d2q0.4,9czy0.3,9q1e0.4,9czy0.3,9d2q0.4,9czy0.3,9d2q0.4,9czy0.3,9d2q0.4,9czy0.3,9d2q0.4,9czy0.3,9d2q0.4,9czy0.3,9q1e0.4,9czy0.3,9d2q0.4,9czy0.3,9d2q0.4,9czy0.3,9d2q0.4,9czy0.3,9d2q0.4,9czy0.3,9d2q0.4,9pym0.3,9d2q0.4,9czy0.3,9d2q0.4,9czy0.3,9d2q0.4,9czy0.3,9d2q0.4,9czy0.3,9d2q0.4,9czy0.3,9q1e0.4,9czy0.3,9d2q0.4,9czy0.3,9d2q0.4,9czy0.3,9d2q0.4,9czy0.3,9d2q0.4,9czy0.3,9d2q0.4,9czy0.3,9q1e0.4,9czy0.3,9d2q0.4,9czy0.3,9d2q0.4,5j1xj.4|<+1030>-10:30<+11>-11,M10.1.0,M4.1.0"),
  ("Australia/Melbourne", "34792,0;39600,1;36000,0;36000,0|-133j46g.3,bfqcmg.1,49pc0.2,cxfk00.1,4h400.2,9d1c0.1,9d1c0.2,9q000.1,902o0.2,eeio00.1,64dc0.2,clpc0.1,6hc00.2,c8qo0.1,6hc00.2,c8qo0.1,6hc00.2,c8qo0.1,6uao0.2,c8qo0.1,6hc00.2,c8qo0.1,6hc00.2,c8qo0.1,6hc00.2,c8qo0.1,6hc00.2,c8qo0.1,6hc00.2,c8qo0.1,6uao0.2,c8qo0.1,6hc00.2,c8qo0.1,6hc00.2,c8qo0.1,6hc00.2,c8qo0.1,779c0.2,b5uo0.1,7k800.2,b5uo0.1,7x6o0.2,bitc0.1,779c0.2,bitc0.1,779c0.2,bitc0.1,6hc00.2,c8qo0.1,6hc00.2,c8qo0.1,6uao0.2,c8qo0.1,6hc00.2,c8qo0.1,7k800.2,b5uo0.1,7x6o0.2,asw00.1,7x6o0.2,asw00.1,7x6o0.2,asw00.1,7x6o0.2,b5uo0.1,7k800.2,7x6o0.1,asw00.2,b5uo0.1,7x6o0.2,asw00.1,7x6o0.2,asw00.1,7x6o0.2,b5uo0.1,7k800.2,b5uo0.1,7x6o0.2,asw00.1,7k800.2,b5uo0.1,8a5c0.2,9d1c0.1,9d1c0.2,9d1c0.1,9d1c0.2,9d1c0.1,9d1c0.2,9d1c0.1,9d1c0.2,9q000.1,9d1c0.2,9d1c0.1,9d1c0.2,9d1c0.1,9d1c0.2,9d1c0.1,9d1c0.2,9d1c0.1,9d1c0.2,9d1c0.1,9d1c0.2,9q000.1,9d1c0.2,9d1c0.1,9d1c0.2,9d1c0.1,9d1c0.2,9d1c0.1,9d1c0.2,9d1c0.1,9d1c0.2,9d1c0.1,9q000.2,9d1c0.1,9d1c0.2,9d1c0.1,9d1c0.2,9d1c0.1,9d1c0.2,9d1c0.1,9d1c0.2,9d1c0.1,9d1c0.2,9q000.1,9d1c0.2,9d1c0.1,9d1c0.2,9d1c0.1,9d1c0.2,9d1c0.1,9d1c0.2,9d1c0.1,9d1c0.2,9d1c0.1,9d1c0.2,9q000.1,9d1c0.2,9d1c0.1,9d1c0.2,9d1c0.1|AEST-10AEDT,M10.1.0,M4.1.0/3"),
  ("Australia/Perth", "27804,0;32400,1;28800,0;28800,0|-12nxusc.3,b058sc.1,49pc0.2,cxfk00.1,4h400.2,9d1c0.1,9d1c0.2,gheyo0.1,6hc00.2,4ir9c0.1,6hc00.2,40r400.1,5eg00.2,7p9hc0.1,5reo0.2,b5uo0.1,7x6o0.2,asw00.1,7x6o0.2|AWST-8"),
  ("Australia/Sydney", "36292,0;39600,1;36000,0;36000,0|-133j5c4.3,bfqds4.1,49pc0.2,cxfk00.1,4h400.2,9d1c0.1,9d1c0.2,9q000.1,902o0.2,eeio00.1,64dc0.2,clpc0.1,6hc00.2,c8qo0.1,6hc00.2,c8qo0.1,6hc00.2,c8qo0.1,6uao0.2,c8qo0.1,6hc00.2,c8qo0.1,6hc00.2,c8qo0.1,6hc00.2,c8qo0.1,6hc00.2,c8qo0.1,6hc00.2,c8qo0.1,8a5c0.2,asw00.1,6hc00.2,c8qo0.1,6hc00.2,c8qo0.1,6hc00.2,c8qo0.1,779c0.2,b5uo0.1,7k800.2,bitc0.1,7k800.2,bitc0.1,779c0.2,bitc0.1,6hc00.2,c8qo0.1,6hc00.2,c8qo0.1,6hc00.2,c8qo0.1,6uao0.2,c8qo0.1,6hc00.2,c8qo0.1,6hc00.2,c8qo0.1,7x6o0.2,asw00.1,7x6o0.2,asw00.1,7x6o0.2,asw00.1,7x6o0.2,b5uo0.1,7k800.2,7x6o0.1,asw00.2,b5uo0.1,7x6o0.2,asw00.1,7x6o0.2,asw00.1,7x6o0.2,b5uo0.1,7k800.2,b5uo0.1,7x6o0.2,asw00.1,7k800.2,b5uo0.1,8a5c0.2,9d1c0.1,9d1c0.2,9d1c0.1,9d1c0.2,9d1c0.1,9d1c0.2,9d1c0.1,9d1c0.2,9q000.1,9d1c0.2,9d1c0.1,9d1c0.2,9d1c0.1,9d1c0.2,9d1c0.1,9d1c0.2,9d1c0.1,9d1c0.2,9d1c0.1,9d1c0.2,9q000.1,9d1c0.2,9d1c0.1,9d1c0.2,9d1c0.1,9d1c0.2,9d1c0.1,9d1c0.2,9d1c0.1,9d1c0.2,9d1c0.1,9q000.2,9d1c0.1,9d1c0.2,9d1c0.1,9d1c0.2,9d1c0.1,9d1c0.2,9d1c0.1,9d1c0.2,9d1c0.1,9d1c0.2,9q000.1,9d1c0.2,9d1c0.1,9d1c0.2,9d1c0.1,9d1c0.2,9d1c0.1,9d1c0.2,9d1c0.1,9d1c0.2,9d1c0.1,9d1c0.2,9q000.1,9d1c0.2,9d1c0.1,9d1c0.2,9d1c0.1|AEST-10AEDT,M10.1.0,M4.1.0/3"),
  ("CET", "3600,0;7200,1;7200,1;3600,0|-s0e080.1,7ves0.0,a4yw0.2,7x6o0.3,asw00.2,7x6o0.3,b8qdc0.2,1cm000.3,7k800.2,9q000.3,9d1c0.2,9d1c0.3,9d1c0.2,8l9c0.3,ggp1c0.2,902o0.3,9q000.2,9d1c0.3,9d1c0.2,9d1c0.3,9q000.2,902o0.3,9d1c0.2,9d1c0.3,9d1c0.2,9d1c0.3,9d1c0.2,9d1c0.3,9d1c0.2,9q000.3,9d1c0.2,9d1c0.3,9d1c0.2,9d1c0.3,9d1c0.2,9d1c0.3,9d1c0.2,9d1c0.3,9d1c0.2,9d1c0.3,9d1c0.2,9q000.3,9d1c0.2,9d1c0.3,9d1c0.2,9d1c0.3,9d1c0.2,9d1c0.3,9d1c0.2,9d1c0.3,9d1c0.2,9d1c0.3,9q000.2,asw00.3,7x6o0.2,asw00.3,7x6o0.2,asw00.3,7x6o0.2,b5uo0.3,7k800.2,b5uo0.3,7k800.2,b5uo0.3,7x6o0.2,asw00.3,7x6o0.2,asw00.3,7x6o0.2,b5uo0.3,7k800.2,b5uo0.3,7k800.2,b5uo0.3,7k800.2,b5uo0.3,7x6o0.2,asw00.3,7x6o0.2,asw00.3,7x6o0.2,b5uo0.3,7k800.2,b5uo0.3,7k800.2,b5uo0.3,7x6o0.2,asw00.3,7x6o0.2,asw00.3,7x6o0.2,asw00.3,7x6o0.2,b5uo0.3,7k800.2,b5uo0.3,7k800.2,b5uo0.3,7x6o0.2,asw00.3,7x6o0.2,asw00.3,7x6o0.2,b5uo0.3,7k800.2,b5uo0.3,7k800.2,b5uo0.3,7x6o0.2,asw00.3,7x6o0.2,asw00.3,7x6o0.2,asw00.3,7x6o0.2,b5uo0.3,7k800.2,b5uo0.3,7k800.2,b5uo0.3,7x6o0.2,asw00.3,7x6o0.2,asw00.3,7x6o0.2,b5uo0.3,7k800.2,b5uo0.3,7k800.2,b5uo0.3,7k800.2,b5uo0.3,7x6o0.2,asw00.3,7x6o0.2,asw00.3|CET-1CEST,M3.5.0,M10.5.0/3"),
  ("CST6CDT", "-21600,0;-18000,1;-18000,1;-18000,1;-21600,0|-r0esg0.1,ast80.0,7x9g0.1,ast80.0,bmtus0.2,1tz8c0.3,2dsw0.0,b9gdg0.1,9cyk0.0,9d440.1,9cyk0.0,9d440.1,9cyk0.0,9d440.1,9cyk0.0,9d440.1,9px80.0,9d440.1,9cyk0.0,9d440.1,9cyk0.0,3lpg0.1,f4d80.0,64g40.1,clmk0.0,9d440.1,9px80.0,905g0.1,9px80.0,9d440.1,9cyk0.0,9d440.1,9cyk0.0,9d440.1,9cyk0.0,9d440.1,9cyk0.0,9d440.1,9px80.0,905g0.1,9px80.0,9d440.1,9cyk0.0,9d440.1,9cyk0.0,9d440.1,9cyk0.0,8a840.1,afuk0.0,8a840.1,ast80.0,7x9g0.1,ast80.0,7x9g0.1,ast80.0,8a840.1,afuk0.0,8a840.1,afuk0.0,8a840.1,ast80.0,7x9g0.1,ast80.0,7x9g0.1,ast80.0,8a840.1,afuk0.0,8a840.1,afuk0.0,8a840.1,afuk0.0,8a840.1,ast80.0,7x9g0.1,ast80.0,7x9g0.1,ast80.0,8a840.1,afuk0.0,8a840.1,afuk0.0,8a840.1,ast80.0,7x9g0.1,ast80.0,7x9g0.1,ast80.0,6udg0.1,c8nw0.0,6hes0.1,c8nw0.0,6hes0.1,c8nw0.0,6udg0.1,c8nw0.0,6hes0.1,c8nw0.0,6hes0.1,c8nw0.0,6hes0.1,c8nw0.0,6hes0.1,c8nw0.0,6hes0.1,c8nw0.0,6udg0.1,c8nw0.0,6hes0.1,c8nw0.0,6hes0.1,c8nw0.0,6hes0.1,c8nw0.0,6hes0.1,c8nw0.0,6udg0.1,c8nw0.0,6hes0.1,c8nw0.0,6hes0.1,c8nw0.0,6hes0.1,c8nw0.0,6hes0.1,c8nw0.0,6hes0.1,c8nw0.0,6udg0.1,c8nw0.0,6hes0.1,c8nw0.0,6hes0.1,c8nw0.0,6hes0.1,c8nw0.0,6hes0.1,c8nw0.0,6udg0.1,c8nw0.0,6hes0.1,c8nw0.0,6hes0.1,c8nw0.0,6hes0.1,c8nw0.0,6hes0.1,c8nw0.0,6hes0.1,c8nw0.0|CST6CDT,M3.2.0,M11.1.0"),
  ("EET", "7200,0;10800,1;10800,1;7200,0|3s9ms0.1,902o0.0,9q000.1,9d1c0.0,9d1c0.1,9d1c0.0,9q000.1,902o0.0,9d1c0.1,9d1c0.0,9d1c0.1,9d1c0.0,9d1c0.1,9d1c0.0,9d1c0.1,9q000.0,9d1c0.1,9d1c0.0,9d1c0.1,9d1c0.0,9d1c0.1,9d1c0.0,9d1c0.1,9d1c0.0,9d1c0.1,9d1c0.0,9d1c0.1,9q000.0,9d1c0.1,9d1c0.0,9d1c0.1,9d1c0.0,9d1c0.1,9d1c0.0,9d1c0.1,9d1c0.0,9d1c0.1,9d1c0.0,9q000.1,asw00.0,7x6o0.1,asw00.0,7x6o0.1,asw00.0,7x6o0.1,b5uo0.0,7k800.1,b5uo0.0,7k800.1,b5uo0.0,7x6o0.1,asw00.0,7x6o0.1,asw00.0,7x6o0.1,b5uo0.0,7k800.1,b5uo0.0,7k800.1,b5uo0.0,7k800.1,b5uo0.0,7x6o0.1,asw00.0,7x6o0.1,asw00.0,7x6o0.1,b5uo0.0,7k800.1,b5uo0.0,7k800.1,b5uo0.0,7x6o0.1,asw00.0,7x6o0.1,asw00.0,7x6o0.1,asw00.0,7x6o0.1,b5uo0.0,7k800.1,b5uo0.0,7k800.1,b5uo0.0,7x6o0.1,asw00.0,7x6o0.1,asw00.0,7x6o0.1,b5uo0.0,7k800.1,b5uo0.0,7k800.1,b5uo0.0,7x6o0.1,asw00.0,7x6o0.1,asw00.0,7x6o0.1,asw00.0,7x6o0.1,b5uo0.0,7k800.1,b5uo0.0,7k800.1,b5uo0.0,7x6o0.1,asw00.0,7x6o0.1,asw00.0,7x6o0.1,b5uo0.0,7k800.1,b5uo0.0,7k800.1,b5uo0.0,7k800.1,b5uo0.0,7x6o0.1,asw00.0,7x6o0.1,asw00.0|EET-2EEST,M3.5.0/3,M10.5.0/4"),
  ("EST", "-18000,0||EST5"),
  ("EST5EDT", "-18000,0;-14400,1;-14400,1;-14400,1;-18000,0|-r0ev80.1,ast80.0,7x9g0.1,ast80.0,bmtus0.2,1tzb40.3,2dq40.0,b9gdg0.1,9cyk0.0,9d440.1,9cyk0.0,9d440.1,9cyk0.0,9d440.1,9cyk0.0,9d440.1,9px80.0,9d440.1,9cyk0.0,9d440.1,9cyk0.0,3lpg0.1,f4d80.0,64g40.1,clmk0.0,9d440.1,9px80.0,905g0.1,9px80.0,9d440.1,9cyk0.0,9d440.1,9cyk0.0,9d440.1,9cyk0.0,9d440.1,9cyk0.0,9d440.1,9px80.0,905g0.1,9px80.0,9d440.1,9cyk0.0,9d440.1,9cyk0.0,9d440.1,9cyk0.0,8a840.1,afuk0.0,8a840.1,ast80.0,7x9g0.1,ast80.0,7x9g0.1,ast80.0,8a840.1,afuk0.0,8a840.1,afuk0.0,8a840.1,ast80.0,7x9g0.1,ast80.0,7x9g0.1,ast80.0,8a840.1,afuk0.0,8a840.1,afuk0.0,8a840.1,afuk0.0,8a840.1,ast80.0,7x9g0.1,ast80.0,7x9g0.1,ast80.0,8a840.1,afuk0.0,8a840.1,afuk0.0,8a840.1,ast80.0,7x9g0.1,ast80.0,7x9g0.1,ast80.0,6udg0.1,c8nw0.0,6hes0.1,c8nw0.0,6hes0.1,c8nw0.0,6udg0.1,c8nw0.0,6hes0.1,c8nw0.0,6hes0.1,c8nw0.0,6hes0.1,c8nw0.0,6hes0.1,c8nw0.0,6hes0.1,c8nw0.0,6udg0.1,c8nw0.0,6hes0.1,c8nw0.0,6hes0.1,c8nw0.0,6hes0.1,c8nw0.0,6hes0.1,c8nw0.0,6udg0.1,c8nw0.0,6hes0.1,c8nw0.0,6hes0.1,c8nw0.0,6hes0.1,c8nw0.0,6hes0.1,c8nw0.0,6hes0.1,c8nw0.0,6udg0.1,c8nw0.0,6hes0.1,c8nw0.0,6hes0.1,c8nw0.0,6hes0.1,c8nw0.0,6hes0.1,c8nw0.0,6udg0.1,c8nw0.0,6hes0.1,c8nw0.0,6hes0.1,c8nw0.0,6hes0.1,c8nw0.0,6hes0.1,c8nw0.0,6hes0.1,c8nw0.0|EST5EDT,M3.2.0,M11.1.0"),
  ("Etc/GMT", "0,0||GMT0"),
  ("Etc/GMT+1", "-3600,0||<-01>1"),
  ("Etc/GMT+10", "-36000,0||<-10>10"),
  ("Etc/GMT+11", "-39600,0||<-11>11"),
  ("Etc/GMT+12", "-43200,0||<-12>12"),
  ("Etc/GMT+2", "-7200,0||<-02>2"),
  ("Etc/GMT+3", "-10800,0||<-03>3"),
  ("Etc/GMT+4", "-14400,0||<-04>4"),
  ("Etc/GMT+5", "-18000,0||<-05>5"),
  ("Etc/GMT+6", "-21600,0||<-06>6"),
  ("Etc/GMT+7", "-25200,0||<-07>7"),
  ("Etc/GMT+8", "-28800,0||<-08>8"),
  ("Etc/GMT+9", "-32400,0||<-09>9"),
  ("Etc/GMT-1", "3600,0||<+01>-1"),
  ("Etc/GMT-10", "36000,0||<+10>-10"),
  ("Etc/GMT-11", "39600,0||<+11>-11"),
  ("Etc/GMT-12", "43200,0||<+12>-12"),
  ("Etc/GMT-13", "46800,0||<+13>-13"),
  ("Etc/GMT-14", "50400,0||<+14>-14"),
  ("Etc/GMT-2", "7200,0||<+02>-2"),
  ("Etc/GMT-3", "10800,0||<+03>-3"),
  ("Etc/GMT-4", "14400,0||<+04>-4"),
  ("Etc/GMT-5", "18000,0||<+05>-5"),
  ("Etc/GMT-6", "21600,0||<+06>-6"),
  ("Etc/GMT-7", "25200,0||<+07>-7"),
  ("Etc/GMT-8", "28800,0||<+08>-8"),
  ("Etc/GMT-9", "32400,0||<+09>-9"),
  ("Etc/UCT", "0,0||UTC0"),
  ("Europe/Amsterdam", "1172,0;4772,1;1172,0;4772,1;1172,0;1200,0;4800,1;4800,1;3600,0;7200,1;7200,1;7200,1;3600,0|-1ygf4wk.2,16g19c0.1,7v980.2,a51o0.3,7x6o0.4,a2yo0.3,9d1c0.4,9q000.3,902o0.4,9q000.3,902o0.4,9q000.3,902o0.4,9b6o0.3,a2yo0.4,c51c0.3,6l1c0.4,902o0.3,9q000.4,ci000.3,682o0.4,bgyo0.3,79400.4,bitc0.3,779c0.4,bmio0.3,7gio0.4,bbeo0.3,7eo00.4,bd9c0.3,7ctc0.4,bf400.3,7ayo0.4,bvs00.3,6uao0.4,bko00.3,7idc0.4,b9k00.3,7gio0.4,bbeo0.3,7eo00.4,bf400.3,7ayo0.4,btxc0.3,21uc0.7,4uaz8.5,bitc0.6,779c0.5,bko00.6,7idc0.5,bd3s0.a,1aarpc.8,7k800.9,9q000.8,9d1c0.9,9d1c0.8,9d1c0.9,8l9c0.8,ggp1c0.b,902o0.c,9q000.b,9d1c0.c,9d1c0.b,9d1c0.c,9q000.b,902o0.c,9d1c0.b,9d1c0.c,9d1c0.b,9d1c0.c,9d1c0.b,9d1c0.c,9d1c0.b,9q000.c,9d1c0.b,9d1c0.c,9d1c0.b,9d1c0.c,9d1c0.b,9d1c0.c,9d1c0.b,9d1c0.c,9d1c0.b,9d1c0.c,9d1c0.b,9q000.c,9d1c0.b,9d1c0.c,9d1c0.b,9d1c0.c,9d1c0.b,9d1c0.c,9d1c0.b,9d1c0.c,9d1c0.b,9d1c0.c,9q000.b,asw00.c,7x6o0.b,asw00.c,7x6o0.b,asw00.c,7x6o0.b,b5uo0.c,7k800.b,b5uo0.c,7k800.b,b5uo0.c,7x6o0.b,asw00.c,7x6o0.b,asw00.c,7x6o0.b,b5uo0.c,7k800.b,b5uo0.c,7k800.b,b5uo0.c,7k800.b,b5uo0.c,7x6o0.b,asw00.c,7x6o0.b,asw00.c,7x6o0.b,b5uo0.c,7k800.b,b5uo0.c,7k800.b,b5uo0.c,7x6o0.b,asw00.c,7x6o0.b,asw00.c,7x6o0.b,asw00.c,7x6o0.b,b5uo0.c,7k800.b,b5uo0.c,7k800.b,b5uo0.c,7x6o0.b,asw00.c,7x6o0.b,asw00.c,7x6o0.b,b5uo0.c,7k800.b,b5uo0.c,7k800.b,b5uo0.c,7x6o0.b,asw00.c,7x6o0.b,asw00.c,7x6o0.b,asw00.c,7x6o0.b,b5uo0.c,7k800.b,b5uo0.c,7k800.b,b5uo0.c,7x6o0.b,asw00.c,7x6o0.b,asw00.c,7x6o0.b,b5uo0.c,7k800.b,b5uo0.c,7k800.b,b5uo0.c,7k800.b,b5uo0.c,7x6o0.b,asw00.c,7x6o0.b,asw00.c|CET-1CEST,M3.5.0,M10.5.0/3"),
  ("Europe/Andorra", "364,0;0,0;3600,0;7200,1;3600,0|-100edm4.1,nvgqy4.2,k3ctg0.3,9d1c0.4,9d1c0.3,9d1c0.4,9d1c0.3,9d1c0.4,9d1c0.3,9d1c0.4,9d1c0.3,9d1c0.4,9d1c0.3,9q000.4,9d1c0.3,9d1c0.4,9d1c0.3,9d1c0.4,9d1c0.3,9d1c0.4,9d1c0.3,9d1c0.4,9d1c0.3,9d1c0.4,9q000.3,asw00.4,7x6o0.3,asw00.4,7x6o0.3,asw00.4,7x6o0.3,b5uo0.4,7k800.3,b5uo0.4,7k800.3,b5uo0.4,7x6o0.3,asw00.4,7x6o0.3,asw00.4,7x6o0.3,b5uo0.4,7k800.3,b5uo0.4,7k800.3,b5uo0.4,7k800.3,b5uo0.4,7x6o0.3,asw00.4,7x6o0.3,asw00.4,7x6o0.3,b5uo0.4,7k800.3,b5uo0.4,7k800.3,b5uo0.4,7x6o0.3,asw00.4,7x6o0.3,asw00.4,7x6o0.3,asw00.4,7x6o0.3,b5uo0.4,7k800.3,b5uo0.4,7k800.3,b5uo0.4,7x6o0.3,asw00.4,7x6o0.3,asw00.4,7x6o0.3,b5uo0.4,7k800.3,b5uo0.4,7k800.3,b5uo0.4,7x6o0.3,asw00.4,7x6o0.3,asw00.4,7x6o0.3,asw00.4,7x6o0.3,b5uo0.4,7k800.3,b5uo0.4,7k800.3,b5uo0.4,7x6o0.3,asw00.4,7x6o0.3,asw00.4,7x6o0.3,b5uo0.4,7k800.3,b5uo0.4,7k800.3,b5uo0.4,7k800.3,b5uo0.4,7x6o0.3,asw00.4,7x6o0.3,asw00.4|CET-1CEST,M3.5.0,M10.5.0/3"),
  ("Europe/Astrakhan", "11532,0;10800,0;18000,1;14400,0;14400,0;18000,1;14400,1;10800,0;14400,0|-nu2zkc.1,37bv8c.3,qi27w0.2,9et80.3,9d440.2,9et80.3,9d440.2,9et80.3,9eys0.2,9d6w0.4,9d1c0.5,9d1c0.4,9d1c0.5,9d1c0.4,9d1c0.5,9d1c0.4,9d1c0.5,9d1c0.4,9d1c0.6,9d440.7,9d1c0.6,9q000.7,9d1c0.4,ipzw0.6,9d440.7,9d1c0.6,9d1c0.7,9d1c0.6,9d1c0.7,9d1c0.6,9d1c0.7,9q000.6,asw00.7,7x6o0.6,asw00.7,7x6o0.6,asw00.7,7x6o0.6,b5uo0.7,7k800.6,b5uo0.7,7k800.6,b5uo0.7,7x6o0.6,asw00.7,7x6o0.6,asw00.7,7x6o0.6,b5uo0.7,7k800.6,b5uo0.7,7k800.6,b5uo0.7,7k800.6,b5uo0.7,7x6o0.6,asw00.7,7x6o0.6,asw00.7,7x6o0.6,b5uo0.7,7k800.4,1vbzw0.7,qnc40.4,bdvvrj.4|<+04>-4"),
  ("Europe/Athens", "5692,0;5692,0;10800,1;7200,0;3600,0;7200,1;10800,1;7200,0;10800,1;7200,0|-12rxtq4.1,aw2tdo.3,8bjasg.2,2vmk0.3,4hiw40.2,16ik0.5,scog0.4,7lx40.5,9o2k0.4,9eys0.3,4atzw0.2,6djw0.3,bplus0.6,bq800.7,71uw0.6,9d1c0.7,902o0.6,91xc0.7,9o5c0.6,905g0.3,9qgo0.2,9akg0.3,9iik0.2,99980.3,9dcg0.8,9d1c0.9,9d1c0.8,9d1c0.9,9d1c0.8,9d1c0.9,9d1c0.8,9q000.9,9d1c0.8,9d1c0.9,9d1c0.8,9d1c0.9,9d1c0.8,9d1c0.9,9d1c0.8,9d1c0.9,9d1c0.8,9d1c0.9,9d1c0.8,9q000.9,9d1c0.8,9d1c0.9,9d1c0.8,9d1c0.9,9d1c0.8,9d1c0.9,9d1c0.8,9d1c0.9,9d1c0.8,9d1c0.9,9q000.8,asw00.9,7x6o0.8,asw00.9,7x6o0.8,asw00.9,7x6o0.8,b5uo0.9,7k800.8,b5uo0.9,7k800.8,b5uo0.9,7x6o0.8,asw00.9,7x6o0.8,asw00.9,7x6o0.8,b5uo0.9,7k800.8,b5uo0.9,7k800.8,b5uo0.9,7k800.8,b5uo0.9,7x6o0.8,asw00.9,7x6o0.8,asw00.9,7x6o0.8,b5uo0.9,7k800.8,b5uo0.9,7k800.8,b5uo0.9,7x6o0.8,asw00.9,7x6o0.8,asw00.9,7x6o0.8,asw00.9,7x6o0.8,b5uo0.9,7k800.8,b5uo0.9,7k800.8,b5uo0.9,7x6o0.8,asw00.9,7x6o0.8,asw00.9,7x6o0.8,b5uo0.9,7k800.8,b5uo0.9,7k800.8,b5uo0.9,7x6o0.8,asw00.9,7x6o0.8,asw00.9,7x6o0.8,asw00.9,7x6o0.8,b5uo0.9,7k800.8,b5uo0.9,7k800.8,b5uo0.9,7x6o0.8,asw00.9,7x6o0.8,asw00.9,7x6o0.8,b5uo0.9,7k800.8,b5uo0.9,7k800.8,b5uo0.9,7k800.8,b5uo0.9,7x6o0.8,asw00.9,7x6o0.8,asw00.9|EET-2EEST,M3.5.0/3,M10.5.0/4"),
  ("Europe/Belgrade", "4920,0;3600,0;3600,0;7200,1;7200,1;7200,1;3600,0|-18vsmgo.1,twhnko.4,swz00.2,7k800.3,9q000.2,9d1c0.3,9d1c0.2,b7pc0.3,6qlc0.2,jl1hc0.5,9d1c0.6,9d1c0.5,9q000.6,9d1c0.5,9d1c0.6,9d1c0.5,9d1c0.6,9d1c0.5,9d1c0.6,9d1c0.5,9d1c0.6,9d1c0.5,9d1c0.6,9d1c0.5,9q000.6,9d1c0.5,9d1c0.6,9d1c0.5,9d1c0.6,9d1c0.5,9d1c0.6,9d1c0.5,9d1c0.6,9d1c0.5,9d1c0.6,9q000.5,asw00.6,7x6o0.5,asw00.6,7x6o0.5,asw00.6,7x6o0.5,b5uo0.6,7k800.5,b5uo0.6,7k800.5,b5uo0.6,7x6o0.5,asw00.6,7x6o0.5,asw00.6,7x6o0.5,b5uo0.6,7k800.5,b5uo0.6,7k800.5,b5uo0.6,7k800.5,b5uo0.6,7x6o0.5,asw00.6,7x6o0.5,asw00.6,7x6o0.5,b5uo0.6,7k800.5,b5uo0.6,7k800.5,b5uo0.6,7x6o0.5,asw00.6,7x6o0.5,asw00.6,7x6o0.5,asw00.6,7x6o0.5,b5uo0.6,7k800.5,b5uo0.6,7k800.5,b5uo0.6,7x6o0.5,asw00.6,7x6o0.5,asw00.6,7x6o0.5,b5uo0.6,7k800.5,b5uo0.6,7k800.5,b5uo0.6,7x6o0.5,asw00.6,7x6o0.5,asw00.6,7x6o0.5,asw00.6,7x6o0.5,b5uo0.6,7k800.5,b5uo0.6,7k800.5,b5uo0.6,7x6o0.5,asw00.6,7x6o0.5,asw00.6,7x6o0.5,b5uo0.6,7k800.5,b5uo0.6,7k800.5,b5uo0.6,7k800.5,b5uo0.6,7x6o0.5,asw00.6,7x6o0.5,asw00.6|CET-1CEST,M3.5.0,M10.5.0/3"),
  ("Europe/Berlin", "3208,0;7200,1;3600,0;7200,1;3600,0;10800,1;10800,1;7200,1;3600,0|-1421154.2,c1n0x4.1,7ves0.2,a4yw0.3,7x6o0.4,asw00.3,7x6o0.4,b8qdc0.3,1cm000.4,7k800.3,9q000.4,9d1c0.3,9d1c0.4,9d1c0.3,2o7w0.5,6bs00.1,2txg0.4,7k800.3,91xc0.4,9b9g0.3,1sqk0.6,2inw0.1,51k40.4,a2yo0.3,8n400.4,9q000.3,902o0.4,fx91c0.7,902o0.8,9d1c0.7,9d1c0.8,9d1c0.7,9d1c0.8,9d1c0.7,9d1c0.8,9d1c0.7,9q000.8,9d1c0.7,9d1c0.8,9d1c0.7,9d1c0.8,9d1c0.7,9d1c0.8,9d1c0.7,9d1c0.8,9d1c0.7,9d1c0.8,9d1c0.7,9q000.8,9d1c0.7,9d1c0.8,9d1c0.7,9d1c0.8,9d1c0.7,9d1c0.8,9d1c0.7,9d1c0.8,9d1c0.7,9d1c0.8,9q000.7,asw00.8,7x6o0.7,asw00.8,7x6o0.7,asw00.8,7x6o0.7,b5uo0.8,7k800.7,b5uo0.8,7k800.7,b5uo0.8,7x6o0.7,asw00.8,7x6o0.7,asw00.8,7x6o0.7,b5uo0.8,7k800.7,b5uo0.8,7k800.7,b5uo0.8,7k800.7,b5uo0.8,7x6o0.7,asw00.8,7x6o0.7,asw00.8,7x6o0.7,b5uo0.8,7k800.7,b5uo0.8,7k800.7,b5uo0.8,7x6o0.7,asw00.8,7x6o0.7,asw00.8,7x6o0.7,asw00.8,7x6o0.7,b5uo0.8,7k800.7,b5uo0.8,7k800.7,b5uo0.8,7x6o0.7,asw00.8,7x6o0.7,asw00.8,7x6o0.7,b5uo0.8,7k800.7,b5uo0.8,7k800.7,b5uo0.8,7x6o0.7,asw00.8,7x6o0.7,asw00.8,7x6o0.7,asw00.8,7x6o0.7,b5uo0.8,7k800.7,b5uo0.8,7k800.7,b5uo0.8,7x6o0.7,asw00.8,7x6o0.7,asw00.8,7x6o0.7,b5uo0.8,7k800.7,b5uo0.8,7k800.7,b5uo0.8,7k800.7,b5uo0.8,7x6o0.7,asw00.8,7x6o0.7,asw00.8|CET-1CEST,M3.5.0,M10.5.0/3"),
  ("Europe/Brussels", "1050,0;1050,0;0,0;3600,0;7200,1;3600,0;7200,1;3600,1;0,0;0,0;7200,1;3600,0|-1ayy3h6.1,6forh6.2,br3hc0.3,rrx80.6,7vc00.3,a4yw0.4,7x6o0.5,asw00.4,7x6o0.5,2wh40.9,5omo0.7,b5uo0.8,6uao0.7,cyo00.8,7ayo0.7,bko00.8,7rmo0.7,a2yo0.8,a2yo0.7,8n400.8,902o0.7,9q000.8,9d1c0.7,9d1c0.8,a2yo0.7,8n400.8,9q000.7,902o0.8,a2yo0.7,90b00.8,a2yo0.7,8n400.8,9q000.7,902o0.8,a2yo0.7,8n400.8,9d1c0.7,9d1c0.8,902o0.7,a2yo0.8,9d1c0.7,9d1c0.8,902o0.7,9q000.8,a2yo0.7,8n400.8,9d1c0.7,9d1c0.8,902o0.7,9q000.8,a2yo0.7,b5uo0.8,51hc0.7,4deo0.4,1a36k0.5,7k800.4,9q000.5,9d1c0.4,8l9c0.5,a4tc0.4,8l9c0.5,clpc0.4,79400.5,fwu800.a,902o0.b,9q000.a,9d1c0.b,9d1c0.a,9d1c0.b,9q000.a,902o0.b,9d1c0.a,9d1c0.b,9d1c0.a,9d1c0.b,9d1c0.a,9d1c0.b,9d1c0.a,9q000.b,9d1c0.a,9d1c0.b,9d1c0.a,9d1c0.b,9d1c0.a,9d1c0.b,9d1c0.a,9d1c0.b,9d1c0.a,9d1c0.b,9d1c0.a,9q000.b,9d1c0.a,9d1c0.b,9d1c0.a,9d1c0.b,9d1c0.a,9d1c0.b,9d1c0.a,9d1c0.b,9d1c0.a,9d1c0.b,9q000.a,asw00.b,7x6o0.a,asw00.b,7x6o0.a,asw00.b,7x6o0.a,b5uo0.b,7k800.a,b5uo0.b,7k800.a,b5uo0.b,7x6o0.a,asw00.b,7x6o0.a,asw00.b,7x6o0.a,b5uo0.b,7k800.a,b5uo0.b,7k800.a,b5uo0.b,7k800.a,b5uo0.b,7x6o0.a,asw00.b,7x6o0.a,asw00.b,7x6o0.a,b5uo0.b,7k800.a,b5uo0.b,7k800.a,b5uo0.b,7x6o0.a,asw00.b,7x6o0.a,asw00.b,7x6o0.a,asw00.b,7x6o0.a,b5uo0.b,7k800.a,b5uo0.b,7k800.a,b5uo0.b,7x6o0.a,asw00.b,7x6o0.a,asw00.b,7x6o0.a,b5uo0.b,7k800.a,b5uo0.b,7k800.a,b5uo0.b,7x6o0.a,asw00.b,7x6o0.a,asw00.b,7x6o0.a,asw00.b,7x6o0.a,b5uo0.b,7k800.a,b5uo0.b,7k800.a,b5uo0.b,7x6o0.a,asw00.b,7x6o0.a,asw00.b,7x6o0.a,b5uo0.b,7k800.a,b5uo0.b,7k800.a,b5uo0.b,7k800.a,b5uo0.b,7x6o0.a,asw00.b,7x6o0.a,asw00.b|CET-1CEST,M3.5.0,M10.5.0/3"),
  ("Europe/Bucharest", "6264,0;6264,0;10800,1;7200,0;10800,1;7200,0;10800,1;7200,0|-14u7wu0.1,krxxc0.5,fj8m0.2,6w5c0.3,9d1c0.2,9d1c0.3,9q000.2,9d1c0.3,9d1c0.2,9d1c0.3,9d1c0.2,9d1c0.3,9d1c0.2,9d1c0.3,9d1c0.2,9d1c0.3,9d1c0.2,9d1c0.3,kp0dc0.4,6h980.5,9q000.4,905g0.5,9d6w0.2,9d1c0.3,9d1c0.2,9d1c0.3,9d1c0.2,9d1c0.3,9d1c0.2,9q000.3,9d1c0.2,9d1c0.3,9d1c0.2,9d1c0.3,9d1c0.2,9d1c0.3,9d1c0.2,9d1c0.3,9d1c0.2,9d1c0.3,9d1c0.2,9q000.3,9cvs0.2,9d1c0.3,9d1c0.2,9d1c0.3,9d1c0.2,9d1c0.3,9d1c0.4,9cyk0.5,9d440.4,9cyk0.5,9q2s0.4,ast80.5,7xhs0.6,asw00.7,7x6o0.6,asw00.7,7x6o0.6,b5uo0.7,7k800.6,b5uo0.7,7k800.6,b5uo0.7,7x6o0.6,asw00.7,7x6o0.6,asw00.7,7x6o0.6,b5uo0.7,7k800.6,b5uo0.7,7k800.6,b5uo0.7,7k800.6,b5uo0.7,7x6o0.6,asw00.7,7x6o0.6,asw00.7,7x6o0.6,b5uo0.7,7k800.6,b5uo0.7,7k800.6,b5uo0.7,7x6o0.6,asw00.7,7x6o0.6,asw00.7,7x6o0.6,asw00.7,7x6o0.6,b5uo0.7,7k800.6,b5uo0.7,7k800.6,b5uo0.7,7x6o0.6,asw00.7,7x6o0.6,asw00.7,7x6o0.6,b5uo0.7,7k800.6,b5uo0.7,7k800.6,b5uo0.7,7x6o0.6,asw00.7,7x6o0.6,asw00.7,7x6o0.6,asw00.7,7x6o0.6,b5uo0.7,7k800.6,b5uo0.7,7k800.6,b5uo0.7,7x6o0.6,asw00.7,7x6o0.6,asw00.7,7x6o0.6,b5uo0.7,7k800.6,b5uo0.7,7k800.6,b5uo0.7,7k800.6,b5uo0.7,7x6o0.6,asw00.7,7x6o0.6,asw00.7|EET-2EEST,M3.5.0/3,M10.5.0/4"),
  ("Europe/Budapest", "4580,0;7200,1;3600,0;7200,1;3600,0;7200,1;3600,0|-15bee78.2,db0dz8.1,7ves0.2,a4yw0.3,7x6o0.4,asw00.1,7x6o0.2,auqo0.1,7vc00.2,afxc0.1,8n400.2,aq1x00.1,thcc0.4,7k800.3,9q000.4,9d1c0.3,9d1c0.4,awd00.1,9eys0.2,7pxk0.3,9rrw0.2,9b9g0.3,9d1c0.4,9d1c0.3,9d1c0.4,9q000.3,902o0.4,2f4vs0.1,6u7w0.2,bw0c0.1,6uao0.2,clpc0.1,64dc0.2,clpc0.1,64dc0.2,br3bs0.1,902o0.2,9d1c0.1,9d1c0.2,9d1c0.1,9d1c0.2,9d1c0.1,9d1c0.2,9d6w0.5,9q000.6,9d1c0.5,9d1c0.6,9d1c0.5,9d1c0.6,9d1c0.5,9d1c0.6,9d1c0.5,9d1c0.6,9d1c0.5,9d1c0.6,9d1c0.5,9q000.6,9d1c0.5,9d1c0.6,9d1c0.5,9d1c0.6,9d1c0.5,9d1c0.6,9d1c0.5,9d1c0.6,9d1c0.5,9d1c0.6,9q000.5,asw00.6,7x6o0.5,asw00.6,7x6o0.5,asw00.6,7x6o0.5,b5uo0.6,7k800.5,b5uo0.6,7k800.5,b5uo0.6,7x6o0.5,asw00.6,7x6o0.5,asw00.6,7x6o0.5,b5uo0.6,7k800.5,b5uo0.6,7k800.5,b5uo0.6,7k800.5,b5uo0.6,7x6o0.5,asw00.6,7x6o0.5,asw00.6,7x6o0.5,b5uo0.6,7k800.5,b5uo0.6,7k800.5,b5uo0.6,7x6o0.5,asw00.6,7x6o0.5,asw00.6,7x6o0.5,asw00.6,7x6o0.5,b5uo0.6,7k800.5,b5uo0.6,7k800.5,b5uo0.6,7x6o0.5,asw00.6,7x6o0.5,asw00.6,7x6o0.5,b5uo0.6,7k800.5,b5uo0.6,7k800.5,b5uo0.6,7x6o0.5,asw00.6,7x6o0.5,asw00.6,7x6o0.5,asw00.6,7x6o0.5,b5uo0.6,7k800.5,b5uo0.6,7k800.5,b5uo0.6,7x6o0.5,asw00.6,7x6o0.5,asw00.6,7x6o0.5,b5uo0.6,7k800.5,b5uo0.6,7k800.5,b5uo0.6,7k800.5,b5uo0.6,7x6o0.5,asw00.6,7x6o0.5,asw00.6|CET-1CEST,M3.5.0,M10.5.0/3"),
  ("Europe/Chisinau", "6920,0;6900,0;6264,0;10800,1;7200,0;7200,0;10800,1;3600,0;7200,1;7200,1;14400,1;10800,0;10800,0;14400,1;10800,1;7200,0|-1ayy808.1,jw96ok.2,70f1to.5,fj8m0.3,6w5c0.4,9d1c0.3,9d1c0.4,9q000.3,9d1c0.4,9d1c0.3,9d1c0.4,9d1c0.3,9d1c0.4,9d1c0.3,9d1c0.4,9d1c0.3,9d1c0.4,9d1c0.3,9d1c0.4,geqo0.6,ha580.9,oc8g0.7,7k800.8,9q000.7,9d1c0.8,7cl00.b,j3pbw0.a,9et80.b,9d440.a,9et80.b,9d440.a,9et80.b,9eys0.a,9d6w0.c,9d1c0.d,9d1c0.c,9d1c0.d,9d1c0.c,9d1c0.d,9d1c0.c,9d1c0.d,9d1c0.c,9d1c0.d,9d1c0.c,9d1c0.d,25p80.6,7kdk0.4,9d1c0.3,9d1c0.4,9cvs0.6,9cyk0.5,9d440.6,9cyk0.5,9d440.6,9cyk0.5,9d440.6,9cyk0.5,9q2s0.6,ast80.5,7xf00.6,asw00.5,7x6o0.6,asw00.5,7x6o0.6,b5uo0.5,7k800.6,b5uo0.5,7k800.6,b5uo0.5,7x6o0.6,asw00.5,7x6o0.6,asw00.5,7x6o0.6,b5uo0.5,7k800.6,b5uo0.5,7k800.6,b5uo0.5,7k800.6,b5uo0.5,7x6o0.6,asw00.5,7x6o0.6,asw00.5,7x6o0.6,b5uo0.5,7k800.6,b5uo0.5,7k800.6,b5uo0.5,7x6o0.6,asw00.5,7x6o0.6,asw00.5,7x6o0.6,asw00.5,7x6o0.6,b5uo0.5,7k800.6,b5uo0.5,7k800.6,b5uo0.5,7x6o0.6,asw00.5,7x6o0.6,asw00.5,7x6o0.6,b5uo0.5,7k800.6,b5uo0.5,7k800.6,b5uo0.5,7x6o0.6,asw00.5,7x6o0.6,asw00.5,7x6o0.6,asw00.5,7x6o0.6,b5uo0.5,7k800.6,b5uo0.5,7k800.6,b5uo0.5,7x6o0.6,asw00.5,7x6o0.6,asw00.5,7x6o0.6,b5uo0.5,7k800.6,b5uo0.5,7k800.6,b5uo0.5,7k800.6,b5uo0.5,7x6o0.6,asw00.5,7x6o0.6,asw00.5|EET-2EEST,M3.5.0,M10.5.0/3"),
  ("Europe/Copenhagen", "3020,0;3020,0;7200,1;3600,0;3600,0;7200,1;7200,1;3600,0|-15r1bnw.1,235k00.3,bo7orw.2,75bw0.3,cbs2w0.2,1aco80.4,7k800.5,9q000.4,9d1c0.5,9d1c0.4,9d1c0.5,6y000.4,dbmo0.5,6bs00.4,clpc0.5,51hc0.4,e1k00.5,4oio0.4,giutc0.6,902o0.7,9d1c0.6,9d1c0.7,9d1c0.6,9d1c0.7,9d1c0.6,9d1c0.7,9d1c0.6,9q000.7,9d1c0.6,9d1c0.7,9d1c0.6,9d1c0.7,9d1c0.6,9d1c0.7,9d1c0.6,9d1c0.7,9d1c0.6,9d1c0.7,9d1c0.6,9q000.7,9d1c0.6,9d1c0.7,9d1c0.6,9d1c0.7,9d1c0.6,9d1c0.7,9d1c0.6,9d1c0.7,9d1c0.6,9d1c0.7,9q000.6,asw00.7,7x6o0.6,asw00.7,7x6o0.6,asw00.7,7x6o0.6,b5uo0.7,7k800.6,b5uo0.7,7k800.6,b5uo0.7,7x6o0.6,asw00.7,7x6o0.6,asw00.7,7x6o0.6,b5uo0.7,7k800.6,b5uo0.7,7k800.6,b5uo0.7,7k800.6,b5uo0.7,7x6o0.6,asw00.7,7x6o0.6,asw00.7,7x6o0.6,b5uo0.7,7k800.6,b5uo0.7,7k800.6,b5uo0.7,7x6o0.6,asw00.7,7x6o0.6,asw00.7,7x6o0.6,asw00.7,7x6o0.6,b5uo0.7,7k800.6,b5uo0.7,7k800.6,b5uo0.7,7x6o0.6,asw00.7,7x6o0.6,asw00.7,7x6o0.6,b5uo0.7,7k800.6,b5uo0.7,7k800.6,b5uo0.7,7x6o0.6,asw00.7,7x6o0.6,asw00.7,7x6o0.6,asw00.7,7x6o0.6,b5uo0.7,7k800.6,b5uo0.7,7k800.6,b5uo0.7,7x6o0.6,asw00.7,7x6o0.6,asw00.7,7x6o0.6,b5uo0.7,7k800.6,b5uo0.7,7k800.6,b5uo0.7,7k800.6,b5uo0.7,7x6o0.6,asw00.7,7x6o0.6,asw00.7|CET-1CEST,M3.5.0,M10.5.0/3"),
  ("Europe/Dublin", "-1521,0;-1521,0;2079,1;3600,1;0,0;3600,1;3600,0;3600,1;0,0|-1anxqtr.1,iol480.2,6uao0.4,9pytr.3,8c000.4,9o5c0.3,9ruo0.4,9b6o0.3,9ew00.4,9b6o0.3,auqo0.4,88ao0.3,9ew00.4,8y800.5,a2yo0.4,a2yo0.5,7k800.4,asw00.5,8a5c0.4,asw00.5,8n400.4,a2yo0.5,8n400.4,9q000.5,902o0.4,afxc0.5,8n400.4,a2yo0.5,8n400.4,9q000.5,902o0.4,a2yo0.5,8n400.4,a2yo0.5,8n400.4,9q000.5,9d1c0.4,a2yo0.5,8n400.4,9q000.5,902o0.4,a2yo0.5,8n400.4,a2yo0.5,8n400.4,9q000.5,902o0.4,a2yo0.5,b5uo0.4,51hc0.5,3g8800.4,8a5c0.5,bvs00.4,8n400.5,a2yo0.4,7x6o0.5,asw00.4,8n400.5,9q000.4,902o0.5,9q000.4,9d1c0.5,9q000.4,902o0.5,8n400.4,9q000.5,902o0.4,a2yo0.5,8n400.4,afxc0.5,8n400.4,9q000.5,902o0.4,a2yo0.5,8n400.4,a2yo0.5,8n400.4,9q000.5,902o0.4,902o0.5,b5uo0.4,7k800.5,b5uo0.4,7x6o0.5,asw00.4,7k800.5,b5uo0.4,7k800.5,b5uo0.4,7k800.5,b5uo0.4,7k800.5,bitc0.4,5reo0.5,cyfo0.6,1kjf00.8,779c0.5,bitc0.4,779c0.5,bitc0.4,779c0.5,bitc0.4,779c0.5,bitc0.4,7k800.5,b5uo0.4,7k800.5,b5uo0.4,7k800.5,bitc0.4,779c0.5,bitc0.4,779c0.5,bitc0.4,7x3w0.7,asw00.8,7x6o0.7,asw00.8,7x6o0.7,asw00.8,7x6o0.7,b5uo0.8,7x6o0.7,asw00.8,7x6o0.7,asw00.8,7x6o0.7,asw00.8,7x6o0.7,asw00.8,7x6o0.7,b5uo0.8,7k800.7,b5uo0.8,7x6o0.7,asw00.8,7x6o0.7,asw00.8,7x6o0.7,asw00.8,7x6o0.7,asw00.8,7x6o0.7,asw00.8,8a5c0.7,asw00.8,7x6o0.7,asw00.8,7x6o0.7,asw00.8,7x6o0.7,b5uo0.8,7k800.7,b5uo0.8,7k800.7,b5uo0.8,7x6o0.7,asw00.8,7x6o0.7,asw00.8,7x6o0.7,b5uo0.8,7k800.7,b5uo0.8,7k800.7,b5uo0.8,7k800.7,b5uo0.8,7x6o0.7,asw00.8,7x6o0.7,asw00.8,7x6o0.7,b5uo0.8,7k800.7,b5uo0.8,7k800.7,b5uo0.8,7x6o0.7,asw00.8,7x6o0.7,asw00.8,7x6o0.7,asw00.8,7x6o0.7,b5uo0.8,7k800.7,b5uo0.8,7k800.7,b5uo0.8,7x6o0.7,asw00.8,7x6o0.7,asw00.8,7x6o0.7,b5uo0.8,7k800.7,b5uo0.8,7k800.7,b5uo0.8,7x6o0.7,asw00.8,7x6o0.7,asw00.8,7x6o0.7,asw00.8,7x6o0.7,b5uo0.8,7k800.7,b5uo0.8,7k800.7,b5uo0.8,7x6o0.7,asw00.8,7x6o0.7,asw00.8,7x6o0.7,b5uo0.8,7k800.7,b5uo0.8,7k800.7,b5uo0.8,7k800.7,b5uo0.8,7x6o0.7,asw00.8,7x6o0.7,asw00.8|GMT0IST,M3.5.0/1,M10.5.0"),
  ("Europe/Gibraltar", "-1284,0;3600,1;0,0;7200,1;0,0;3600,0;7200,1;3600,0|-1anxr0c.4,iol38c.1,6uao0.2,9q000.1,8c000.2,9o5c0.1,9ruo0.2,9b6o0.1,9ew00.2,9b6o0.1,auqo0.2,88ao0.1,9ew00.2,8y800.1,a2yo0.2,a2yo0.1,7k800.2,asw00.1,8a5c0.2,asw00.1,8n400.2,a2yo0.1,8n400.2,9q000.1,902o0.2,afxc0.1,8n400.2,a2yo0.1,8n400.2,9q000.1,902o0.2,a2yo0.1,8n400.2,a2yo0.1,8n400.2,9q000.1,9d1c0.2,a2yo0.1,8n400.2,9q000.1,902o0.2,a2yo0.1,8n400.2,a2yo0.1,8n400.2,9q000.1,902o0.2,a2yo0.1,b5uo0.2,51hc0.1,mbmk0.3,51hc0.1,c8qo0.3,6hc00.1,c8qo0.3,6uao0.1,bvs00.3,8n400.1,a4tc0.3,5clc0.1,4bms0.2,9q000.1,902o0.2,8a5c0.1,1frw0.3,64dc0.1,4bms0.2,6uao0.1,bvs00.2,7x6o0.1,asw00.2,8n400.1,9q000.2,902o0.1,9q000.2,9d1c0.1,9q000.2,902o0.1,8n400.2,9q000.1,902o0.2,a2yo0.1,8n400.2,afxc0.1,8n400.2,9q000.5,d0tp80.6,9d1c0.7,9d1c0.6,9d1c0.7,9d1c0.6,9q000.7,9d1c0.6,9d1c0.7,9d1c0.6,9d1c0.7,9d1c0.6,9d1c0.7,9d1c0.6,9d1c0.7,9d1c0.6,9d1c0.7,9d1c0.6,9q000.7,9d1c0.6,9d1c0.7,9d1c0.6,9d1c0.7,9d1c0.6,9d1c0.7,9d1c0.6,9d1c0.7,9d1c0.6,9d1c0.7,9q000.6,asw00.7,7x6o0.6,asw00.7,7x6o0.6,asw00.7,7x6o0.6,b5uo0.7,7k800.6,b5uo0.7,7k800.6,b5uo0.7,7x6o0.6,asw00.7,7x6o0.6,asw00.7,7x6o0.6,b5uo0.7,7k800.6,b5uo0.7,7k800.6,b5uo0.7,7k800.6,b5uo0.7,7x6o0.6,asw00.7,7x6o0.6,asw00.7,7x6o0.6,b5uo0.7,7k800.6,b5uo0.7,7k800.6,b5uo0.7,7x6o0.6,asw00.7,7x6o0.6,asw00.7,7x6o0.6,asw00.7,7x6o0.6,b5uo0.7,7k800.6,b5uo0.7,7k800.6,b5uo0.7,7x6o0.6,asw00.7,7x6o0.6,asw00.7,7x6o0.6,b5uo0.7,7k800.6,b5uo0.7,7k800.6,b5uo0.7,7x6o0.6,asw00.7,7x6o0.6,asw00.7,7x6o0.6,asw00.7,7x6o0.6,b5uo0.7,7k800.6,b5uo0.7,7k800.6,b5uo0.7,7x6o0.6,asw00.7,7x6o0.6,asw00.7,7x6o0.6,b5uo0.7,7k800.6,b5uo0.7,7k800.6,b5uo0.7,7k800.6,b5uo0.7,7x6o0.6,asw00.7,7x6o0.6,asw00.7|CET-1CEST,M3.5.0,M10.5.0/3"),
  ("Europe/Guernsey", "-609,0;3600,1;0,0;0,0;3600,0;7200,1;7200,1;7200,1;7200,1;3600,0;3600,1;0,0|-tiakv3.3,1ixx33.1,6uao0.2,9q000.1,8c000.2,9o5c0.1,9ruo0.2,9b6o0.1,9ew00.2,9b6o0.1,auqo0.2,88ao0.1,9ew00.2,8y800.1,a2yo0.2,a2yo0.1,7k800.2,asw00.1,8a5c0.2,asw00.1,8n400.2,a2yo0.1,8n400.2,9q000.1,902o0.2,afxc0.1,8n400.2,a2yo0.1,8n400.2,9q000.1,902o0.2,a2yo0.1,8n400.2,a2yo0.1,8n400.2,9q000.1,9d1c0.2,a2yo0.1,8n400.2,9q000.1,902o0.2,a2yo0.1,8n400.2,a2yo0.1,8n400.2,9q000.1,902o0.2,a2yo0.1,b5uo0.2,51hc0.1,6kt00.6,17vs80.4,7k800.5,9q000.4,9d1c0.5,9d1c0.4,9d1c0.5,1ufo0.8,3i5o0.1,4bms0.2,9q000.1,902o0.2,8a5c0.1,1frw0.7,64dc0.1,4bms0.2,6uao0.1,bvs00.2,7x6o0.1,asw00.2,8n400.1,9q000.2,902o0.1,9q000.2,9d1c0.1,9q000.2,902o0.1,8n400.2,9q000.1,902o0.2,a2yo0.1,8n400.2,afxc0.1,8n400.2,9q000.1,902o0.2,a2yo0.1,8n400.2,a2yo0.1,8n400.2,9q000.1,902o0.2,902o0.1,b5uo0.2,7k800.1,b5uo0.2,7x6o0.1,asw00.2,7k800.1,b5uo0.2,7k800.1,b5uo0.2,7k800.1,b5uo0.2,7k800.1,bitc0.2,5reo0.1,cyfo0.9,1kjf00.b,779c0.1,bitc0.2,779c0.1,bitc0.2,779c0.1,bitc0.2,779c0.1,bitc0.2,7k800.1,b5uo0.2,7k800.1,b5uo0.2,7k800.1,bitc0.2,779c0.1,bitc0.2,779c0.1,bitc0.2,7x3w0.a,asw00.b,7x6o0.a,asw00.b,7x6o0.a,asw00.b,7x6o0.a,b5uo0.b,7x6o0.a,asw00.b,7x6o0.a,asw00.b,7x6o0.a,asw00.b,7x6o0.a,asw00.b,7x6o0.a,b5uo0.b,7k800.a,b5uo0.b,7x6o0.a,asw00.b,7x6o0.a,asw00.b,7x6o0.a,asw00.b,7x6o0.a,asw00.b,7x6o0.a,asw00.b,8a5c0.a,asw00.b,7x6o0.a,asw00.b,7x6o0.a,asw00.b,7x6o0.a,b5uo0.b,7k800.a,b5uo0.b,7k800.a,b5uo0.b,7x6o0.a,asw00.b,7x6o0.a,asw00.b,7x6o0.a,b5uo0.b,7k800.a,b5uo0.b,7k800.a,b5uo0.b,7k800.a,b5uo0.b,7x6o0.a,asw00.b,7x6o0.a,asw00.b,7x6o0.a,b5uo0.b,7k800.a,b5uo0.b,7k800.a,b5uo0.b,7x6o0.a,asw00.b,7x6o0.a,asw00.b,7x6o0.a,asw00.b,7x6o0.a,b5uo0.b,7k800.a,b5uo0.b,7k800.a,b5uo0.b,7x6o0.a,asw00.b,7x6o0.a,asw00.b,7x6o0.a,b5uo0.b,7k800.a,b5uo0.b,7k800.a,b5uo0.b,7x6o0.a,asw00.b,7x6o0.a,asw00.b,7x6o0.a,asw00.b,7x6o0.a,b5uo0.b,7k800.a,b5uo0.b,7k800.a,b5uo0.b,7x6o0.a,asw00.b,7x6o0.a,asw00.b,7x6o0.a,b5uo0.b,7k800.a,b5uo0.b,7k800.a,b5uo0.b,7k800.a,b5uo0.b,7x6o0.a,asw00.b,7x6o0.a,asw00.b|GMT0BST,M3.5.0/1,M10.5.0"),
  ("Europe/Helsinki", "5989,0;5989,0;10800,1;7200,0;10800,1;7200,0|-1bss9yd.1,mebs00.3,ax3tqd.2,9gqo0.3,k31s80.2,9d1c0.3,9d1c0.2,9d1c0.3,9d440.4,9d1c0.5,9d1c0.4,9q000.5,9d1c0.4,9d1c0.5,9d1c0.4,9d1c0.5,9d1c0.4,9d1c0.5,9d1c0.4,9d1c0.5,9d1c0.4,9d1c0.5,9d1c0.4,9q000.5,9d1c0.4,9d1c0.5,9d1c0.4,9d1c0.5,9d1c0.4,9d1c0.5,9d1c0.4,9d1c0.5,9d1c0.4,9d1c0.5,9q000.4,asw00.5,7x6o0.4,asw00.5,7x6o0.4,asw00.5,7x6o0.4,b5uo0.5,7k800.4,b5uo0.5,7k800.4,b5uo0.5,7x6o0.4,asw00.5,7x6o0.4,asw00.5,7x6o0.4,b5uo0.5,7k800.4,b5uo0.5,7k800.4,b5uo0.5,7k800.4,b5uo0.5,7x6o0.4,asw00.5,7x6o0.4,asw00.5,7x6o0.4,b5uo0.5,7k800.4,b5uo0.5,7k800.4,b5uo0.5,7x6o0.4,asw00.5,7x6o0.4,asw00.5,7x6o0.4,asw00.5,7x6o0.4,b5uo0.5,7k800.4,b5uo0.5,7k800.4,b5uo0.5,7x6o0.4,asw00.5,7x6o0.4,asw00.5,7x6o0.4,b5uo0.5,7k800.4,b5uo0.5,7k800.4,b5uo0.5,7x6o0.4,asw00.5,7x6o0.4,asw00.5,7x6o0.4,asw00.5,7x6o0.4,b5uo0.5,7k800.4,b5uo0.5,7k800.4,b5uo0.5,7x6o0.4,asw00.5,7x6o0.4,asw00.5,7x6o0.4,b5uo0.5,7k800.4,b5uo0.5,7k800.4,b5uo0.5,7k800.4,b5uo0.5,7x6o0.4,asw00.5,7x6o0.4,asw00.5|EET-2EEST,M3.5.0/3,M10.5.0/4"),
  ("Europe/Isle_of_Man", "-1075,0;3600,1;0,0;7200,1;3600,0;3600,1;0,0|-19a1gi5.2,haosq5.1,6uao0.2,9q000.1,8c000.2,9o5c0.1,9ruo0.2,9b6o0.1,9ew00.2,9b6o0.1,auqo0.2,88ao0.1,9ew00.2,8y800.1,a2yo0.2,a2yo0.1,7k800.2,asw00.1,8a5c0.2,asw00.1,8n400.2,a2yo0.1,8n400.2,9q000.1,902o0.2,afxc0.1,8n400.2,a2yo0.1,8n400.2,9q000.1,902o0.2,a2yo0.1,8n400.2,a2yo0.1,8n400.2,9q000.1,9d1c0.2,a2yo0.1,8n400.2,9q000.1,902o0.2,a2yo0.1,8n400.2,a2yo0.1,8n400.2,9q000.1,902o0.2,a2yo0.1,b5uo0.2,51hc0.1,mbmk0.3,51hc0.1,c8qo0.3,6hc00.1,c8qo0.3,6uao0.1,bvs00.3,8n400.1,a4tc0.3,5clc0.1,4bms0.2,9q000.1,902o0.2,8a5c0.1,1frw0.3,64dc0.1,4bms0.2,6uao0.1,bvs00.2,7x6o0.1,asw00.2,8n400.1,9q000.2,902o0.1,9q000.2,9d1c0.1,9q000.2,902o0.1,8n400.2,9q000.1,902o0.2,a2yo0.1,8n400.2,afxc0.1,8n400.2,9q000.1,902o0.2,a2yo0.1,8n400.2,a2yo0.1,8n400.2,9q000.1,902o0.2,902o0.1,b5uo0.2,7k800.1,b5uo0.2,7x6o0.1,asw00.2,7k800.1,b5uo0.2,7k800.1,b5uo0.2,7k800.1,b5uo0.2,7k800.1,bitc0.2,5reo0.1,cyfo0.4,1kjf00.6,779c0.1,bitc0.2,779c0.1,bitc0.2,779c0.1,bitc0.2,779c0.1,bitc0.2,7k800.1,b5uo0.2,7k800.1,b5uo0.2,7k800.1,bitc0.2,779c0.1,bitc0.2,779c0.1,bitc0.2,7x3w0.5,asw00.6,7x6o0.5,asw00.6,7x6o0.5,asw00.6,7x6o0.5,b5uo0.6,7x6o0.5,asw00.6,7x6o0.5,asw00.6,7x6o0.5,asw00.6,7x6o0.5,asw00.6,7x6o0.5,b5uo0.6,7k800.5,b5uo0.6,7x6o0.5,asw00.6,7x6o0.5,asw00.6,7x6o0.5,asw00.6,7x6o0.5,asw00.6,7x6o0.5,asw00.6,8a5c0.5,asw00.6,7x6o0.5,asw00.6,7x6o0.5,asw00.6,7x6o0.5,b5uo0.6,7k800.5,b5uo0.6,7k800.5,b5uo0.6,7x6o0.5,asw00.6,7x6o0.5,asw00.6,7x6o0.5,b5uo0.6,7k800.5,b5uo0.6,7k800.5,b5uo0.6,7k800.5,b5uo0.6,7x6o0.5,asw00.6,7x6o0.5,asw00.6,7x6o0.5,b5uo0.6,7k800.5,b5uo0.6,7k800.5,b5uo0.6,7x6o0.5,asw00.6,7x6o0.5,asw00.6,7x6o0.5,asw00.6,7x6o0.5,b5uo0.6,7k800.5,b5uo0.6,7k800.5,b5uo0.6,7x6o0.5,asw00.6,7x6o0.5,asw00.6,7x6o0.5,b5uo0.6,7k800.5,b5uo0.6,7k800.5,b5uo0.6,7x6o0.5,asw00.6,7x6o0.5,asw00.6,7x6o0.5,asw00.6,7x6o0.5,b5uo0.6,7k800.5,b5uo0.6,7k800.5,b5uo0.6,7x6o0.5,asw00.6,7x6o0.5,asw00.6,7x6o0.5,b5uo0.6,7k800.5,b5uo0.6,7k800.5,b5uo0.6,7k800.5,b5uo0.6,7x6o0.5,asw00.6,7x6o0.5,asw00.6|GMT0BST,M3.5.0/1,M10.5.0"),
  ("Europe/Istanbul", "6952,0;7016,0;10800,1;7200,0;10800,0;14400,1;10800,1;7200,0;10800,1;7200,0;10800,0|-1ayy814.1,g1oam8.3,2wvx6w.2,7v980.3,1tjc40.2,aunw0.3,88dg0.2,9et80.3,8yas0.2,a2vw0.3,tzpg0.2,79180.3,awo40.2,7v980.3,7p4040.2,4zjw0.3,2vs40.2,f4d80.3,9vms0.2,1u5ek0.3,c5440.2,69uk0.3,acas0.2,8n180.3,a31g0.2,8n180.3,9q2s0.2,8zzw0.3,a31g0.2,8zzw0.3,a31g0.2,8n180.3,5md9g0.2,o9zw0.3,a6qs0.2,75bw0.3,4iwyw0.2,7x6o0.3,7kas0.2,b5rw0.3,75hg0.2,bkl80.3,77c40.2,biqk0.3,7x9g0.2,a2vw0.3,8n6s0.2,4iqc0.4,2nkw80.5,38l80.4,kdes0.3,8qtc0.6,8a5c0.7,9ew00.6,9d1c0.7,9d1c0.6,9d1c0.7,9d1c0.6,9d1c0.7,9d1c0.6,9d1c0.7,9d1c0.6,9q000.7,9d1c0.6,9d1c0.7,9d1c0.6,9d1c0.7,9d1c0.6,9d1c0.7,902o0.6,9q000.7,9d1c0.6,9d1c0.7,9q000.6,asw00.7,7x6o0.6,asw00.7,7x6o0.6,asw00.7,7x6o0.6,b5uo0.7,7k800.6,b5uo0.7,7k800.6,b5uo0.7,7x6o0.6,asw00.7,7x6o0.6,asw00.7,7x6o0.6,b5uo0.7,7k800.6,b5uo0.7,7k800.6,b5uo0.7,7kdk0.8,b5uo0.9,7x6o0.8,asw00.9,7x6o0.8,asw00.9,7x6o0.8,b5uo0.9,7m2o0.8,b4000.9,7k800.8,b5uo0.9,7x6o0.8,asw00.9,7z1c0.8,ar1c0.9,7x6o0.8,bitc0.9,779c0.8,8fe80.4,b5gbzj.4|<+03>-3"),
  ("Europe/Jersey", "-506,0;3600,1;0,0;0,0;3600,0;7200,1;7200,1;7200,1;7200,1;3600,0;3600,1;0,0|-11cerk0.3,9d23s0.1,6uao0.2,9q000.1,8c000.2,9o5c0.1,9ruo0.2,9b6o0.1,9ew00.2,9b6o0.1,auqo0.2,88ao0.1,9ew00.2,8y800.1,a2yo0.2,a2yo0.1,7k800.2,asw00.1,8a5c0.2,asw00.1,8n400.2,a2yo0.1,8n400.2,9q000.1,902o0.2,afxc0.1,8n400.2,a2yo0.1,8n400.2,9q000.1,902o0.2,a2yo0.1,8n400.2,a2yo0.1,8n400.2,9q000.1,9d1c0.2,a2yo0.1,8n400.2,9q000.1,902o0.2,a2yo0.1,8n400.2,a2yo0.1,8n400.2,9q000.1,902o0.2,a2yo0.1,b5uo0.2,51hc0.1,6kt00.6,17vs80.4,7k800.5,9q000.4,9d1c0.5,9d1c0.4,9d1c0.5,1ufo0.8,3i5o0.1,4bms0.2,9q000.1,902o0.2,8a5c0.1,1frw0.7,64dc0.1,4bms0.2,6uao0.1,bvs00.2,7x6o0.1,asw00.2,8n400.1,9q000.2,902o0.1,9q000.2,9d1c0.1,9q000.2,902o0.1,8n400.2,9q000.1,902o0.2,a2yo0.1,8n400.2,afxc0.1,8n400.2,9q000.1,902o0.2,a2yo0.1,8n400.2,a2yo0.1,8n400.2,9q000.1,902o0.2,902o0.1,b5uo0.2,7k800.1,b5uo0.2,7x6o0.1,asw00.2,7k800.1,b5uo0.2,7k800.1,b5uo0.2,7k800.1,b5uo0.2,7k800.1,bitc0.2,5reo0.1,cyfo0.9,1kjf00.3,779c0.1,bitc0.2,779c0.1,bitc0.2,779c0.1,bitc0.2,779c0.1,bitc0.2,7k800.1,b5uo0.2,7k800.1,b5uo0.2,7k800.1,bitc0.2,779c0.1,bitc0.2,779c0.1,bitc0.2,7x3w0.a,asw00.3,7x6o0.a,asw00.3,7x6o0.a,asw00.3,7x6o0.a,b5uo0.3,7x6o0.a,asw00.3,7x6o0.a,asw00.3,7x6o0.a,asw00.3,7x6o0.a,asw00.3,7x6o0.a,b5uo0.3,7k800.a,b5uo0.3,7x6o0.a,asw00.3,7x6o0.a,asw00.3,7x6o0.a,asw00.3,7x6o0.a,asw00.3,7x6o0.a,asw00.3,8a5c0.a,asw00.3,7x6o0.a,asw00.3,7x6o0.a,asw00.3,7x6o0.a,b5uo0.3,7k800.a,b5uo0.3,7k800.a,b5uo0.3,7x6o0.a,asw00.3,7x6o0.a,asw00.3,7x6o0.a,b5uo0.3,7k800.a,b5uo0.3,7k800.a,b5uo0.3,7k800.a,b5uo0.3,7x6o0.a,asw00.3,7x6o0.a,asw00.3,7x6o0.a,b5uo0.3,7k800.a,b5uo0.3,7k800.a,b5uo0.3,7x6o0.a,asw00.3,7x6o0.a,asw00.3,7x6o0.a,asw00.3,7x6o0.a,b5uo0.3,7k800.a,b5uo0.3,7k800.a,b5uo0.3,7x6o0.a,asw00.3,7x6o0.a,asw00.3,7x6o0.a,b5uo0.3,7k800.a,b5uo0.3,7k800.a,b5uo0.3,7x6o0.a,asw00.3,7x6o0.a,asw00.3,7x6o0.a,asw00.3,7x6o0.a,b5uo0.3,7k800.a,b5uo0.3,7k800.a,b5uo0.3,7x6o0.a,asw00.3,7x6o0.a,asw00.3,7x6o0.a,b5uo0.3,7k800.a,b5uo0.3,7k800.a,b5uo0.3,7k800.a,b5uo0.3,7x6o0.a,asw00.3,7x6o0.a,asw00.3|GMT0BST,M3.5.0/1,M10.5.0"),
  ("Europe/Kaliningrad", "4920,0;7200,1;3600,0;7200,1;3600,0;10800,1;7200,0;14400,1;10800,0;10800,0;14400,1;10800,1;7200,0;10800,0;7200,0|-14212go.2,c1n28o.1,7ves0.2,a4yw0.3,7x6o0.4,asw00.3,7x6o0.4,b8qdc0.3,1cm000.4,7k800.3,9q000.4,9d1c0.3,9d1c0.4,9d1c0.3,el00.6,z6o0.5,9kd80.6,82tg0.8,i9avw0.7,9et80.8,9d440.7,9et80.8,9d440.7,9et80.8,9eys0.7,9d6w0.9,9d1c0.a,9d1c0.9,9d1c0.a,9d1c0.9,9d1c0.a,9d1c0.9,9d1c0.a,9d1c0.9,9d1c0.b,9d440.c,9d1c0.b,9q000.c,9d1c0.b,9d1c0.c,9d1c0.b,9d1c0.c,9d1c0.b,9d1c0.c,9d1c0.b,9d1c0.c,9d1c0.b,9d1c0.c,9q000.b,asw00.c,7x6o0.b,asw00.c,7x6o0.b,asw00.c,7x6o0.b,b5uo0.c,7k800.b,b5uo0.c,7k800.b,b5uo0.c,7x6o0.b,asw00.c,7x6o0.b,asw00.c,7x6o0.b,b5uo0.c,7k800.b,b5uo0.c,7k800.b,b5uo0.c,7k800.b,b5uo0.c,7x6o0.b,asw00.c,7x6o0.b,asw00.c,7x6o0.b,b5uo0.c,7k800.d,1vbzw0.c|EET-2"),
  ("Europe/Kirov", "11928,0;10800,0;18000,1;14400,0;14400,0;18000,1;14400,1;10800,0;14400,0;10800,0|-qcx400.1,5q5zo0.3,qi27w0.2,9et80.3,9d440.2,9et80.3,9d440.2,9et80.3,9eys0.2,9d6w0.4,9d1c0.5,9d1c0.4,9d1c0.5,9d1c0.4,9d1c0.5,9d1c0.4,9d1c0.5,9d1c0.4,9d1c0.6,9d440.7,9d1c0.6,9q000.7,9d1c0.4,ipzw0.6,9d440.7,9d1c0.6,9d1c0.7,9d1c0.6,9d1c0.7,9d1c0.6,9d1c0.7,9q000.6,asw00.7,7x6o0.6,asw00.7,7x6o0.6,asw00.7,7x6o0.6,b5uo0.7,7k800.6,b5uo0.7,7k800.6,b5uo0.7,7x6o0.6,asw00.7,7x6o0.6,asw00.7,7x6o0.6,b5uo0.7,7k800.6,b5uo0.7,7k800.6,b5uo0.7,7k800.6,b5uo0.7,7x6o0.6,asw00.7,7x6o0.6,asw00.7,7x6o0.6,b5uo0.7,7k800.8,1vbzw0.7|MSK-3"),
  ("Europe/Kyiv", "7324,0;7324,0;7200,0;10800,0;3600,0;7200,1;7200,1;14400,1;10800,0;14400,1;10800,1;7200,0;10800,1;7200,0;10800,1|-1ayy8bg.1,n4x6o0.2,37a03g.3,5vd6k0.6,kzv40.4,7k800.5,9q000.4,1oyg0.3,jipzs0.7,9et80.3,9d440.7,9et80.3,9d440.7,9et80.3,9eys0.7,9d6w0.8,9d1c0.9,9d1c0.8,9d1c0.9,9d1c0.8,9d1c0.9,9d1c0.8,9d1c0.9,9d1c0.8,9d1c0.9,9d1c0.8,9d1c0.9,51ek0.a,neqw0.b,9d1c0.c,9d1c0.b,9d1c0.c,9d1c0.b,9d1c0.c,9d1c0.b,9d1c0.c,9d1c0.b,9q000.c,asys0.d,7x6o0.e,asw00.d,7x6o0.e,asw00.d,7x6o0.e,b5uo0.d,7k800.e,b5uo0.d,7k800.e,b5uo0.d,7x6o0.e,asw00.d,7x6o0.e,asw00.d,7x6o0.e,b5uo0.d,7k800.e,b5uo0.d,7k800.e,b5uo0.d,7k800.e,b5uo0.d,7x6o0.e,asw00.d,7x6o0.e,asw00.d,7x6o0.e,b5uo0.d,7k800.e,b5uo0.d,7k800.e,b5uo0.d,7x6o0.e,asw00.d,7x6o0.e,asw00.d,7x6o0.e,asw00.d,7x6o0.e,b5uo0.d,7k800.e,b5uo0.d,7k800.e,b5uo0.d,7x6o0.e,asw00.d,7x6o0.e,asw00.d,7x6o0.e,b5uo0.d,7k800.e,b5uo0.d,7k800.e,b5uo0.d,7x6o0.e,asw00.d,7x6o0.e,asw00.d,7x6o0.e,asw00.d,7x6o0.e,b5uo0.d,7k800.e,b5uo0.d,7k800.e,b5uo0.d,7x6o0.e,asw00.d,7x6o0.e,asw00.d,7x6o0.e,b5uo0.d,7k800.e,b5uo0.d,7k800.e,b5uo0.d,7k800.e,b5uo0.d,7x6o0.e,asw00.d,7x6o0.e,asw00.d|EET-2EEST,M3.5.0/3,M10.5.0/4"),
  ("Europe/Lisbon", "-2205,0;3600,1;0,0;3600,1;0,0;7200,1;0,0;3600,0;3600,1;3600,0;7200,1;3600,1;0,0|-18vsgyr.0,em0zmr.6,2bufw0.1,6zxg0.2,66800.1,bq580.2,71s40.1,bq580.2,71s40.1,bq580.2,73ms0.1,bq580.2,71s40.1,bq580.2,1b2g00.3,8so00.4,st1c0.3,8n400.4,9q000.3,902o0.4,a2yo0.3,902o0.4,a2yo0.3,8n400.4,st1c0.3,8n400.4,9d1c0.3,9d1c0.4,sg2o0.3,9d1c0.4,902o0.3,9q000.4,a2yo0.3,8n400.4,9d1c0.3,9d1c0.4,902o0.3,9q000.4,a2yo0.3,b5uo0.4,51hc0.3,bmio0.4,99c00.3,9ew00.4,88ao0.3,25p80.5,5reo0.3,3lpg0.4,779c0.3,1sqk0.5,6uao0.3,38qs0.4,6uao0.3,25p80.5,6hc00.3,38qs0.4,6uao0.3,25p80.5,6hc00.3,38qs0.4,8a5c0.3,9d1c0.4,9d9o0.3,9d1c0.4,9d1c0.3,9d1c0.4,9d1c0.3,9d1c0.4,9d1c0.3,9d1c0.4,9d1c0.3,9q000.4,9d1c0.3,9d1c0.4,9d1c0.3,9d1c0.4,9d1c0.3,9d1c0.4,9d1c0.3,9d1c0.4,9d1c0.3,9q000.4,9d1c0.3,9d1c0.4,9d1c0.3,9d1c0.4,9d1c0.3,9d1c0.4,9d1c0.3,9d1c0.4,9d1c0.3,9d1c0.4,9d1c0.3,9q000.4,9d1c0.3,9d1c0.4,9d1c0.3,9d1c0.4,9d1c0.3,9d1c0.4,9d1c0.3,9d1c0.7,57ljs0.2,9d1c0.3,9d1c0.4,9q2s0.3,9d1c0.4,9d1c0.3,9d1c0.4,9q000.3,902o0.4,9cyk0.3,9d1c0.4,9d1c0.3,9d1c0.4,9d1c0.3,9d1c0.4,9d1c0.3,9q000.4,9d1c0.3,9d1c0.4,9d440.8,9d1c0.6,9d1c0.8,9d1c0.6,9d1c0.8,9d1c0.6,9d1c0.8,9d1c0.6,9d1c0.8,9q000.6,9d1c0.8,9d1c0.6,9d1c0.8,9d1c0.9,9d1c0.a,9d1c0.9,9d1c0.a,9d1c0.9,9d1c0.a,9d1c0.9,9q000.8,asw00.6,7x6o0.8,asw00.6,7x6o0.8,asw00.6,7x6o0.8,b5uo0.6,7k800.8,b5uo0.6,7k800.8,b5uo0.6,7x6o0.8,asw00.6,7x6o0.8,asw00.6,7x6o0.8,b5uo0.6,7k800.8,b5uo0.6,7k800.8,b5uo0.6,7k800.8,b5uo0.6,7x6o0.8,asw00.6,7x6o0.8,asw00.6,7x6o0.8,b5uo0.6,7k800.8,b5uo0.6,7k800.8,b5uo0.6,7x6o0.8,asw00.6,7x6o0.8,asw00.6,7x6o0.8,asw00.6,7x6o0.8,b5uo0.6,7k800.8,b5uo0.6,7k800.8,b5uo0.6,7x6o0.8,asw00.6,7x6o0.8,asw00.6,7x6o0.8,b5uo0.6,7k800.8,b5uo0.6,7k800.8,b5uo0.6,7x6o0.8,asw00.6,7x6o0.8,asw00.6,7x6o0.8,asw00.6,7x6o0.8,b5uo0.6,7k800.8,b5uo0.6,7k800.8,b5uo0.6,7x6o0.8,asw00.6,7x6o0.8,asw00.6,7x6o0.8,b5uo0.6,7k800.8,b5uo0.6,7k800.8,b5uo0.6,7k800.8,b5uo0.6,7x6o0.8,asw00.6,7x6o0.8,asw00.6|WET0WEST,M3.5.0/1,M10.5.0"),
  ("Europe/Ljubljana", "3484,0;3600,0;3600,0;7200,1;7200,1;7200,1;3600,0|-18vslcs.1,twhmgs.4,swz00.2,7k800.3,9q000.2,9d1c0.3,9d1c0.2,9d1c0.3,8l9c0.2,jl1hc0.5,9d1c0.6,9d1c0.5,9q000.6,9d1c0.5,9d1c0.6,9d1c0.5,9d1c0.6,9d1c0.5,9d1c0.6,9d1c0.5,9d1c0.6,9d1c0.5,9d1c0.6,9d1c0.5,9q000.6,9d1c0.5,9d1c0.6,9d1c0.5,9d1c0.6,9d1c0.5,9d1c0.6,9d1c0.5,9d1c0.6,9d1c0.5,9d1c0.6,9q000.5,asw00.6,7x6o0.5,asw00.6,7x6o0.5,asw00.6,7x6o0.5,b5uo0.6,7k800.5,b5uo0.6,7k800.5,b5uo0.6,7x6o0.5,asw00.6,7x6o0.5,asw00.6,7x6o0.5,b5uo0.6,7k800.5,b5uo0.6,7k800.5,b5uo0.6,7k800.5,b5uo0.6,7x6o0.5,asw00.6,7x6o0.5,asw00.6,7x6o0.5,b5uo0.6,7k800.5,b5uo0.6,7k800.5,b5uo0.6,7x6o0.5,asw00.6,7x6o0.5,asw00.6,7x6o0.5,asw00.6,7x6o0.5,b5uo0.6,7k800.5,b5uo0.6,7k800.5,b5uo0.6,7x6o0.5,asw00.6,7x6o0.5,asw00.6,7x6o0.5,b5uo0.6,7k800.5,b5uo0.6,7k800.5,b5uo0.6,7x6o0.5,asw00.6,7x6o0.5,asw00.6,7x6o0.5,asw00.6,7x6o0.5,b5uo0.6,7k800.5,b5uo0.6,7k800.5,b5uo0.6,7x6o0.5,asw00.6,7x6o0.5,asw00.6,7x6o0.5,b5uo0.6,7k800.5,b5uo0.6,7k800.5,b5uo0.6,7k800.5,b5uo0.6,7x6o0.5,asw00.6,7x6o0.5,asw00.6|CET-1CEST,M3.5.0,M10.5.0/3"),
  ("Europe/London", "-75,0;3600,1;0,0;7200,1;0,0;3600,0;3600,1;0,0|-1rprx9x.4,zqf9hx.1,6uao0.2,9q000.1,8c000.2,9o5c0.1,9ruo0.2,9b6o0.1,9ew00.2,9b6o0.1,auqo0.2,88ao0.1,9ew00.2,8y800.1,a2yo0.2,a2yo0.1,7k800.2,asw00.1,8a5c0.2,asw00.1,8n400.2,a2yo0.1,8n400.2,9q000.1,902o0.2,afxc0.1,8n400.2,a2yo0.1,8n400.2,9q000.1,902o0.2,a2yo0.1,8n400.2,a2yo0.1,8n400.2,9q000.1,9d1c0.2,a2yo0.1,8n400.2,9q000.1,902o0.2,a2yo0.1,8n400.2,a2yo0.1,8n400.2,9q000.1,902o0.2,a2yo0.1,b5uo0.2,51hc0.1,mbmk0.3,51hc0.1,c8qo0.3,6hc00.1,c8qo0.3,6uao0.1,bvs00.3,8n400.1,a4tc0.3,5clc0.1,4bms0.2,9q000.1,902o0.2,8a5c0.1,1frw0.3,64dc0.1,4bms0.2,6uao0.1,bvs00.2,7x6o0.1,asw00.2,8n400.1,9q000.2,902o0.1,9q000.2,9d1c0.1,9q000.2,902o0.1,8n400.2,9q000.1,902o0.2,a2yo0.1,8n400.2,afxc0.1,8n400.2,9q000.1,902o0.2,a2yo0.1,8n400.2,a2yo0.1,8n400.2,9q000.1,902o0.2,902o0.1,b5uo0.2,7k800.1,b5uo0.2,7x6o0.1,asw00.2,7k800.1,b5uo0.2,7k800.1,b5uo0.2,7k800.1,b5uo0.2,7k800.1,bitc0.2,5reo0.1,cyfo0.5,1kjf00.7,779c0.1,bitc0.2,779c0.1,bitc0.2,779c0.1,bitc0.2,779c0.1,bitc0.2,7k800.1,b5uo0.2,7k800.1,b5uo0.2,7k800.1,bitc0.2,779c0.1,bitc0.2,779c0.1,bitc0.2,7x3w0.6,asw00.7,7x6o0.6,asw00.7,7x6o0.6,asw00.7,7x6o0.6,b5uo0.7,7x6o0.6,asw00.7,7x6o0.6,asw00.7,7x6o0.6,asw00.7,7x6o0.6,asw00.7,7x6o0.6,b5uo0.7,7k800.6,b5uo0.7,7x6o0.6,asw00.7,7x6o0.6,asw00.7,7x6o0.6,asw00.7,7x6o0.6,asw00.7,7x6o0.6,asw00.7,8a5c0.6,asw00.7,7x6o0.6,asw00.7,7x6o0.6,asw00.7,7x6o0.6,b5uo0.7,7k800.6,b5uo0.7,7k800.6,b5uo0.7,7x6o0.6,asw00.7,7x6o0.6,asw00.7,7x6o0.6,b5uo0.7,7k800.6,b5uo0.7,7k800.6,b5uo0.7,7k800.6,b5uo0.7,7x6o0.6,asw00.7,7x6o0.6,asw00.7,7x6o0.6,b5uo0.7,7k800.6,b5uo0.7,7k800.6,b5uo0.7,7x6o0.6,asw00.7,7x6o0.6,asw00.7,7x6o0.6,asw00.7,7x6o0.6,b5uo0.7,7k800.6,b5uo0.7,7k800.6,b5uo0.7,7x6o0.6,asw00.7,7x6o0.6,asw00.7,7x6o0.6,b5uo0.7,7k800.6,b5uo0.7,7k800.6,b5uo0.7,7x6o0.6,asw00.7,7x6o0.6,asw00.7,7x6o0.6,asw00.7,7x6o0.6,b5uo0.7,7k800.6,b5uo0.7,7k800.6,b5uo0.7,7x6o0.6,asw00.7,7x6o0.6,asw00.7,7x6o0.6,b5uo0.7,7k800.6,b5uo0.7,7k800.6,b5uo0.7,7k800.6,b5uo0.7,7x6o0.6,asw00.7,7x6o0.6,asw00.7|GMT0BST,M3.5.0/1,M10.5.0"),
  ("Europe/Luxembourg", "1476,0;7200,1;3600,0;7200,1;3600,0;3600,1;0,0;0,0;3600,1;3600,0;7200,1;7200,1;7200,1;3600,0|-y89550.2,68l290.1,75hg0.2,ast80.1,796s0.2,at1k0.3,7x6o0.4,3lh40.6,4zmo0.5,b6300.6,6u2c0.5,cytk0.6,7at40.5,bktk0.6,7rh40.5,a31g0.6,a2vw0.5,8n9k0.6,8zx40.5,9q2s0.6,9et80.5,9b9g0.6,a2vw0.5,8n6s0.6,9px80.5,905g0.6,a2vw0.5,905g0.6,a2vw0.5,8ncc0.7,9q000.8,902o0.7,a2yo0.8,8n400.7,9d1c0.8,9d1c0.7,902o0.8,a2yo0.7,9d1c0.8,9d1c0.7,902o0.8,9q000.7,a2yo0.8,8n400.7,9d1c0.8,9d1c0.7,902o0.8,9q000.7,a2yo0.8,b5uo0.7,51hc0.8,42ao0.b,1aeak0.9,7k800.a,9q000.9,9d1c0.a,8n400.2,a2yo0.3,8l9c0.4,clpc0.3,79400.4,fwu800.c,902o0.d,9q000.c,9d1c0.d,9d1c0.c,9d1c0.d,9q000.c,902o0.d,9d1c0.c,9d1c0.d,9d1c0.c,9d1c0.d,9d1c0.c,9d1c0.d,9d1c0.c,9q000.d,9d1c0.c,9d1c0.d,9d1c0.c,9d1c0.d,9d1c0.c,9d1c0.d,9d1c0.c,9d1c0.d,9d1c0.c,9d1c0.d,9d1c0.c,9q000.d,9d1c0.c,9d1c0.d,9d1c0.c,9d1c0.d,9d1c0.c,9d1c0.d,9d1c0.c,9d1c0.d,9d1c0.c,9d1c0.d,9q000.c,asw00.d,7x6o0.c,asw00.d,7x6o0.c,asw00.d,7x6o0.c,b5uo0.d,7k800.c,b5uo0.d,7k800.c,b5uo0.d,7x6o0.c,asw00.d,7x6o0.c,asw00.d,7x6o0.c,b5uo0.d,7k800.c,b5uo0.d,7k800.c,b5uo0.d,7k800.c,b5uo0.d,7x6o0.c,asw00.d,7x6o0.c,asw00.d,7x6o0.c,b5uo0.d,7k800.c,b5uo0.d,7k800.c,b5uo0.d,7x6o0.c,asw00.d,7x6o0.c,asw00.d,7x6o0.c,asw00.d,7x6o0.c,b5uo0.d,7k800.c,b5uo0.d,7k800.c,b5uo0.d,7x6o0.c,asw00.d,7x6o0.c,asw00.d,7x6o0.c,b5uo0.d,7k800.c,b5uo0.d,7k800.c,b5uo0.d,7x6o0.c,asw00.d,7x6o0.c,asw00.d,7x6o0.c,asw00.d,7x6o0.c,b5uo0.d,7k800.c,b5uo0.d,7k800.c,b5uo0.d,7x6o0.c,asw00.d,7x6o0.c,asw00.d,7x6o0.c,b5uo0.d,7k800.c,b5uo0.d,7k800.c,b5uo0.d,7k800.c,b5uo0.d,7x6o0.c,asw00.d,7x6o0.c,asw00.d|CET-1CEST,M3.5.0,M10.5.0/3"),
  ("Europe/Madrid", "-884,0;3600,1;0,0;7200,1;0,0;7200,1;3600,0;7200,1;3600,0;7200,1;3600,0|-100edc0.4,90sik0.1,8yas0.2,9cyk0.1,9eys0.2,2d2vw0.1,8sqs0.2,ssyk0.1,8n6s0.2,9px80.1,905g0.2,a2yo0.1,902o0.2,a2vw0.1,8n6s0.2,40lh80.1,5k2s0.2,9cyk0.1,1frw0.3,7z1c0.1,j1c80.2,8a2k0.6,13yt80.5,685g0.6,brzw0.5,8n6s0.6,a2vw0.5,8n6s0.6,a2vw0.5,8n6s0.6,a2vw0.5,8n6s0.6,1clx80.5,7x9g0.6,cswik0.5,905g0.6,9px80.5,905g0.6,8zzw0.5,9d440.6,9px80.5,905g0.6,9q5k0.7,9d1c0.8,9d1c0.9,9d1c0.a,9q000.9,902o0.a,9d1c0.9,9d1c0.a,9d1c0.9,9d1c0.a,9d1c0.9,9d1c0.a,9d1c0.9,9q000.a,9d1c0.9,9d1c0.a,9d1c0.9,9d1c0.a,9d1c0.9,9d1c0.a,9d1c0.9,9d1c0.a,9d1c0.9,9d1c0.a,9d1c0.9,9q000.a,9d1c0.9,9d1c0.a,9d1c0.9,9d1c0.a,9d1c0.9,9d1c0.a,9d1c0.9,9d1c0.a,9d1c0.9,9d1c0.a,9q000.9,asw00.a,7x6o0.9,asw00.a,7x6o0.9,asw00.a,7x6o0.9,b5uo0.a,7k800.9,b5uo0.a,7k800.9,b5uo0.a,7x6o0.9,asw00.a,7x6o0.9,asw00.a,7x6o0.9,b5uo0.a,7k800.9,b5uo0.a,7k800.9,b5uo0.a,7k800.9,b5uo0.a,7x6o0.9,asw00.a,7x6o0.9,asw00.a,7x6o0.9,b5uo0.a,7k800.9,b5uo0.a,7k800.9,b5uo0.a,7x6o0.9,asw00.a,7x6o0.9,asw00.a,7x6o0.9,asw00.a,7x6o0.9,b5uo0.a,7k800.9,b5uo0.a,7k800.9,b5uo0.a,7x6o0.9,asw00.a,7x6o0.9,asw00.a,7x6o0.9,b5uo0.a,7k800.9,b5uo0.a,7k800.9,b5uo0.a,7x6o0.9,asw00.a,7x6o0.9,asw00.a,7x6o0.9,asw00.a,7x6o0.9,b5uo0.a,7k800.9,b5uo0.a,7k800.9,b5uo0.a,7x6o0.9,asw00.a,7x6o0.9,asw00.a,7x6o0.9,b5uo0.a,7k800.9,b5uo0.a,7k800.9,b5uo0.a,7k800.9,b5uo0.a,7x6o0.9,asw00.a,7x6o0.9,asw00.a|CET-1CEST,M3.5.0,M10.5.0/3"),
  ("Europe/Malta", "3484,0;7200,1;3600,0;3600,0;7200,1;7200,1;3600,0|-13qyw0s.2,bsbx8s.1,64ak0.2,9d440.1,9et80.2,88dg0.1,aunw0.2,7ig40.1,b5rw0.2,8n6s0.1,9cyk0.2,aau2s0.1,18r9k0.3,7k800.4,9q000.3,9b6o0.4,8n400.3,a4tc0.1,8j940.2,9f1k0.4,afxc0.3,89zs0.4,afxc0.3,7kdk0.4,b5uo0.3,979rs0.4,6h980.2,cls40.4,64dc0.3,clpc0.4,64dc0.3,cyo00.4,64dc0.3,clpc0.4,64dc0.3,c8qo0.4,6hc00.3,clpc0.4,6hc00.3,9b6o0.4,9d1c0.3,ahs00.4,7m2o0.3,b45k0.1,7x3w0.2,asys0.1,7x3w0.2,asys0.1,7x3w0.2,asys0.1,7x3w0.2,asys0.1,7x3w0.2,a4w40.1,8y580.2,9q2s0.5,9d1c0.6,9d1c0.5,9d1c0.6,9d1c0.5,9d1c0.6,9d1c0.5,9q000.6,9d1c0.5,9d1c0.6,9d1c0.5,9d1c0.6,9d1c0.5,9d1c0.6,9d1c0.5,9d1c0.6,9d1c0.5,9d1c0.6,9d1c0.5,9q000.6,9d1c0.5,9d1c0.6,9d1c0.5,9d1c0.6,9d1c0.5,9d1c0.6,9d1c0.5,9d1c0.6,9d1c0.5,9d1c0.6,9q000.5,asw00.6,7x6o0.5,asw00.6,7x6o0.5,asw00.6,7x6o0.5,b5uo0.6,7k800.5,b5uo0.6,7k800.5,b5uo0.6,7x6o0.5,asw00.6,7x6o0.5,asw00.6,7x6o0.5,b5uo0.6,7k800.5,b5uo0.6,7k800.5,b5uo0.6,7k800.5,b5uo0.6,7x6o0.5,asw00.6,7x6o0.5,asw00.6,7x6o0.5,b5uo0.6,7k800.5,b5uo0.6,7k800.5,b5uo0.6,7x6o0.5,asw00.6,7x6o0.5,asw00.6,7x6o0.5,asw00.6,7x6o0.5,b5uo0.6,7k800.5,b5uo0.6,7k800.5,b5uo0.6,7x6o0.5,asw00.6,7x6o0.5,asw00.6,7x6o0.5,b5uo0.6,7k800.5,b5uo0.6,7k800.5,b5uo0.6,7x6o0.5,asw00.6,7x6o0.5,asw00.6,7x6o0.5,asw00.6,7x6o0.5,b5uo0.6,7k800.5,b5uo0.6,7k800.5,b5uo0.6,7x6o0.5,asw00.6,7x6o0.5,asw00.6,7x6o0.5,b5uo0.6,7k800.5,b5uo0.6,7k800.5,b5uo0.6,7k800.5,b5uo0.6,7x6o0.5,asw00.6,7x6o0.5,asw00.6|CET-1CEST,M3.5.0,M10.5.0/3"),
  ("Europe/Minsk", "6616,0;6600,0;7200,0;10800,0;3600,0;7200,1;7200,1;14400,1;10800,0;14400,1;10800,1;7200,0;10800,0|-1ayy7rs.1,n4x6og.2,379zjc.3,5r1mk0.6,pbf40.4,7k800.5,9q000.4,9d1c0.5,4oac0.3,j6dmk0.7,9et80.3,9d440.7,9et80.3,9d440.7,9et80.3,9eys0.7,9d6w0.8,9d1c0.9,9d1c0.8,9d1c0.9,9d1c0.8,9d1c0.9,9d1c0.8,9d1c0.9,9d1c0.8,9d1c0.9,9d1c0.8,sg2o0.a,9d440.b,9d1c0.a,9d1c0.b,9d1c0.a,9d1c0.b,9d1c0.a,9d1c0.b,9d1c0.a,9d1c0.b,9q000.a,asw00.b,7x6o0.a,asw00.b,7x6o0.a,asw00.b,7x6o0.a,b5uo0.b,7k800.a,b5uo0.b,7k800.a,b5uo0.b,7x6o0.a,asw00.b,7x6o0.a,asw00.b,7x6o0.a,b5uo0.b,7k800.a,b5uo0.b,7k800.a,b5uo0.b,7k800.a,b5uo0.b,7x6o0.a,asw00.b,7x6o0.a,asw00.b,7x6o0.a,b5uo0.b,7k800.c,dzv4zj.c|<+03>-3"),
  ("Europe/Monaco", "1772,0;561,0;3600,1;0,0;3600,1;7200,1;0,0;7200,1;3600,0;7200,1;3600,0|-14hnyp8.1,9tlnln.6,2pzpnl.2,5luo0.3,8y800.2,a4tc0.3,7vc00.2,auqo0.3,7idc0.2,b7pc0.3,6sg00.2,cyo00.3,7ayo0.2,bko00.3,7rmo0.2,a2yo0.3,bvs00.2,6uao0.3,902o0.2,9q000.3,9d1c0.2,9d1c0.3,a2yo0.2,8n400.3,9q000.2,902o0.3,a2yo0.2,902o0.3,a2yo0.2,8n400.3,9q000.2,902o0.3,a2yo0.2,8n400.3,9d1c0.2,9d1c0.3,902o0.2,a2yo0.3,9d1c0.2,9d1c0.3,902o0.2,9q000.3,a2yo0.2,8n400.3,9d1c0.2,9d1c0.3,902o0.2,9q000.3,a2yo0.2,b5uo0.3,51po0.4,mdbo0.5,7x3w0.4,7x9g0.5,c8w80.4,7k800.5,9q000.4,9d1c0.5,9nzs0.4,922w0.5,8l9c0.8,fxlx80.7,9cyk0.8,9q5k0.9,902o0.a,9q000.9,9d1c0.a,9d1c0.9,9d1c0.a,9q000.9,902o0.a,9d1c0.9,9d1c0.a,9d1c0.9,9d1c0.a,9d1c0.9,9d1c0.a,9d1c0.9,9q000.a,9d1c0.9,9d1c0.a,9d1c0.9,9d1c0.a,9d1c0.9,9d1c0.a,9d1c0.9,9d1c0.a,9d1c0.9,9d1c0.a,9d1c0.9,9q000.a,9d1c0.9,9d1c0.a,9d1c0.9,9d1c0.a,9d1c0.9,9d1c0.a,9d1c0.9,9d1c0.a,9d1c0.9,9d1c0.a,9q000.9,asw00.a,7x6o0.9,asw00.a,7x6o0.9,asw00.a,7x6o0.9,b5uo0.a,7k800.9,b5uo0.a,7k800.9,b5uo0.a,7x6o0.9,asw00.a,7x6o0.9,asw00.a,7x6o0.9,b5uo0.a,7k800.9,b5uo0.a,7k800.9,b5uo0.a,7k800.9,b5uo0.a,7x6o0.9,asw00.a,7x6o0.9,asw00.a,7x6o0.9,b5uo0.a,7k800.9,b5uo0.a,7k800.9,b5uo0.a,7x6o0.9,asw00.a,7x6o0.9,asw00.a,7x6o0.9,asw00.a,7x6o0.9,b5uo0.a,7k800.9,b5uo0.a,7k800.9,b5uo0.a,7x6o0.9,asw00.a,7x6o0.9,asw00.a,7x6o0.9,b5uo0.a,7k800.9,b5uo0.a,7k800.9,b5uo0.a,7x6o0.9,asw00.a,7x6o0.9,asw00.a,7x6o0.9,asw00.a,7x6o0.9,b5uo0.a,7k800.9,b5uo0.a,7k800.9,b5uo0.a,7x6o0.9,asw00.a,7x6o0.9,asw00.a,7x6o0.9,b5uo0.a,7k800.9,b5uo0.a,7k800.9,b5uo0.a,7k800.9,b5uo0.a,7x6o0.9,asw00.a,7x6o0.9,asw00.a|CET-1CEST,M3.5.0,M10.5.0/3"),
  ("Europe/Moscow", "9017,0;9017,0;12679,1;9079,0;16279,1;14400,1;10800,0;14400,1;18000,1;7200,0;10800,0;14400,1;10800,1;7200,0;14400,0;14400,1;10800,0|-1ayy9mh.1,j1sw00.3,ipzua.2,97hc0.3,7yyk0.4,5i840.2,d9p80.4,1jwk7.5,2cvk0.6,s8o00.7,1qvw0.8,8fpc0.7,1jms0.6,is040.9,412as0.6,qi27w0.7,9et80.6,9d440.7,9et80.6,9d440.7,9et80.6,9eys0.7,9d6w0.a,9d1c0.b,9d1c0.a,9d1c0.b,9d1c0.a,9d1c0.b,9d1c0.a,9d1c0.b,9d1c0.a,9d1c0.b,9d1c0.a,9d1c0.b,9q000.a,9d1c0.c,9d440.d,5reo0.a,3ljw0.b,9d1c0.a,9d1c0.b,9d1c0.a,9d1c0.b,9d1c0.a,9d1c0.b,9d1c0.a,9q000.b,asw00.a,7x6o0.b,asw00.a,7x6o0.b,asw00.a,7x6o0.b,b5uo0.a,7k800.b,b5uo0.a,7k800.b,b5uo0.a,7x6o0.b,asw00.a,7x6o0.b,asw00.a,7x6o0.b,b5uo0.a,7k800.b,b5uo0.a,7k800.b,b5uo0.a,7k800.b,b5uo0.a,7x6o0.b,asw00.a,7x6o0.b,asw00.a,7x6o0.b,b5uo0.a,7k800.e,1vbzw0.a|MSK-3"),
  ("Europe/Oslo", "2580,0;7200,1;3600,0;3600,0;7200,1;7200,1;3600,0|-1353tzo.2,b5svbo.1,6qfs0.2,cgcqo0.1,15tsc0.3,7k800.4,9q000.3,9d1c0.4,9d1c0.3,9d1c0.4,9d1c0.3,70q5c0.4,9q000.3,9d1c0.4,9d1c0.3,9d1c0.4,9d1c0.3,9d1c0.4,9d1c0.3,9d1c0.4,9d1c0.3,9d1c0.4,9q000.3,b5uo0.4,7k800.3,7law00.5,902o0.6,9d1c0.5,9d1c0.6,9d1c0.5,9d1c0.6,9d1c0.5,9d1c0.6,9d1c0.5,9q000.6,9d1c0.5,9d1c0.6,9d1c0.5,9d1c0.6,9d1c0.5,9d1c0.6,9d1c0.5,9d1c0.6,9d1c0.5,9d1c0.6,9d1c0.5,9q000.6,9d1c0.5,9d1c0.6,9d1c0.5,9d1c0.6,9d1c0.5,9d1c0.6,9d1c0.5,9d1c0.6,9d1c0.5,9d1c0.6,9q000.5,asw00.6,7x6o0.5,asw00.6,7x6o0.5,asw00.6,7x6o0.5,b5uo0.6,7k800.5,b5uo0.6,7k800.5,b5uo0.6,7x6o0.5,asw00.6,7x6o0.5,asw00.6,7x6o0.5,b5uo0.6,7k800.5,b5uo0.6,7k800.5,b5uo0.6,7k800.5,b5uo0.6,7x6o0.5,asw00.6,7x6o0.5,asw00.6,7x6o0.5,b5uo0.6,7k800.5,b5uo0.6,7k800.5,b5uo0.6,7x6o0.5,asw00.6,7x6o0.5,asw00.6,7x6o0.5,asw00.6,7x6o0.5,b5uo0.6,7k800.5,b5uo0.6,7k800.5,b5uo0.6,7x6o0.5,asw00.6,7x6o0.5,asw00.6,7x6o0.5,b5uo0.6,7k800.5,b5uo0.6,7k800.5,b5uo0.6,7x6o0.5,asw00.6,7x6o0.5,asw00.6,7x6o0.5,asw00.6,7x6o0.5,b5uo0.6,7k800.5,b5uo0.6,7k800.5,b5uo0.6,7x6o0.5,asw00.6,7x6o0.5,asw00.6,7x6o0.5,b5uo0.6,7k800.5,b5uo0.6,7k800.5,b5uo0.6,7k800.5,b5uo0.6,7x6o0.5,asw00.6,7x6o0.5,asw00.6|CET-1CEST,M3.5.0,M10.5.0/3"),
  ("Europe/Paris", "561,0;561,0;3600,1;0,0;3600,1;0,0;3600,0;7200,1;7200,1;7200,1;3600,0;7200,1;3600,0|-154gb3l.1,afgo00.5,2qx1nl.2,5luo0.3,8y800.2,a4tc0.3,7vc00.2,auqo0.3,7idc0.2,b7pc0.3,6sg00.2,cyo00.3,7ayo0.2,bko00.3,7rmo0.2,a2yo0.3,bvs00.2,6uao0.3,902o0.2,9q000.3,9d1c0.2,9d1c0.3,a2yo0.2,8n400.3,9q000.2,902o0.3,a2yo0.2,902o0.3,a2yo0.2,8n400.3,9q000.2,902o0.3,a2yo0.2,8n400.3,9d1c0.2,9d1c0.3,902o0.2,a2yo0.3,9d1c0.2,9d1c0.3,902o0.2,9q000.3,a2yo0.2,8n400.3,9d1c0.2,9d1c0.3,902o0.2,9q000.3,a2yo0.2,b5uo0.3,51po0.4,5p8w0.8,18rcc0.6,7k800.7,9q000.6,9d1c0.7,7efo0.9,29k40.4,922w0.9,8l9c0.a,fxlx80.8,9cyk0.a,9q5k0.b,902o0.c,9q000.b,9d1c0.c,9d1c0.b,9d1c0.c,9q000.b,902o0.c,9d1c0.b,9d1c0.c,9d1c0.b,9d1c0.c,9d1c0.b,9d1c0.c,9d1c0.b,9q000.c,9d1c0.b,9d1c0.c,9d1c0.b,9d1c0.c,9d1c0.b,9d1c0.c,9d1c0.b,9d1c0.c,9d1c0.b,9d1c0.c,9d1c0.b,9q000.c,9d1c0.b,9d1c0.c,9d1c0.b,9d1c0.c,9d1c0.b,9d1c0.c,9d1c0.b,9d1c0.c,9d1c0.b,9d1c0.c,9q000.b,asw00.c,7x6o0.b,asw00.c,7x6o0.b,asw00.c,7x6o0.b,b5uo0.c,7k800.b,b5uo0.c,7k800.b,b5uo0.c,7x6o0.b,asw00.c,7x6o0.b,asw00.c,7x6o0.b,b5uo0.c,7k800.b,b5uo0.c,7k800.b,b5uo0.c,7k800.b,b5uo0.c,7x6o0.b,asw00.c,7x6o0.b,asw00.c,7x6o0.b,b5uo0.c,7k800.b,b5uo0.c,7k800.b,b5uo0.c,7x6o0.b,asw00.c,7x6o0.b,asw00.c,7x6o0.b,asw00.c,7x6o0.b,b5uo0.c,7k800.b,b5uo0.c,7k800.b,b5uo0.c,7x6o0.b,asw00.c,7x6o0.b,asw00.c,7x6o0.b,b5uo0.c,7k800.b,b5uo0.c,7k800.b,b5uo0.c,7x6o0.b,asw00.c,7x6o0.b,asw00.c,7x6o0.b,asw00.c,7x6o0.b,b5uo0.c,7k800.b,b5uo0.c,7k800.b,b5uo0.c,7x6o0.b,asw00.c,7x6o0.b,asw00.c,7x6o0.b,b5uo0.c,7k800.b,b5uo0.c,7k800.b,b5uo0.c,7k800.b,b5uo0.c,7x6o0.b,asw00.c,7x6o0.b,asw00.c|CET-1CEST,M3.5.0,M10.5.0/3"),
  ("Europe/Prague", "3464,0;3464,0;7200,1;3600,0;7200,1;3600,0;0,0;7200,1;3600,0|-1qmkw08.1,lsd1c0.3,cttug8.2,7ves0.3,a4yw0.4,7x6o0.5,asw00.4,7x6o0.5,b8qdc0.4,1cm000.5,7k800.4,9q000.5,9d1c0.4,9d1c0.5,9d1c0.4,9d1c0.5,b5uo0.4,7vc00.5,2vs40.6,4bk00.3,2vmk0.4,8n400.5,a2yo0.4,8n400.5,9o5c0.4,91xc0.5,fe6000.7,9d1c0.8,9q000.7,902o0.8,9d1c0.7,9d1c0.8,9d1c0.7,9d1c0.8,9d1c0.7,9d1c0.8,9d1c0.7,9q000.8,9d1c0.7,9d1c0.8,9d1c0.7,9d1c0.8,9d1c0.7,9d1c0.8,9d1c0.7,9d1c0.8,9d1c0.7,9d1c0.8,9d1c0.7,9q000.8,9d1c0.7,9d1c0.8,9d1c0.7,9d1c0.8,9d1c0.7,9d1c0.8,9d1c0.7,9d1c0.8,9d1c0.7,9d1c0.8,9q000.7,asw00.8,7x6o0.7,asw00.8,7x6o0.7,asw00.8,7x6o0.7,b5uo0.8,7k800.7,b5uo0.8,7k800.7,b5uo0.8,7x6o0.7,asw00.8,7x6o0.7,asw00.8,7x6o0.7,b5uo0.8,7k800.7,b5uo0.8,7k800.7,b5uo0.8,7k800.7,b5uo0.8,7x6o0.7,asw00.8,7x6o0.7,asw00.8,7x6o0.7,b5uo0.8,7k800.7,b5uo0.8,7k800.7,b5uo0.8,7x6o0.7,asw00.8,7x6o0.7,asw00.8,7x6o0.7,asw00.8,7x6o0.7,b5uo0.8,7k800.7,b5uo0.8,7k800.7,b5uo0.8,7x6o0.7,asw00.8,7x6o0.7,asw00.8,7x6o0.7,b5uo0.8,7k800.7,b5uo0.8,7k800.7,b5uo0.8,7x6o0.7,asw00.8,7x6o0.7,asw00.8,7x6o0.7,asw00.8,7x6o0.7,b5uo0.8,7k800.7,b5uo0.8,7k800.7,b5uo0.8,7x6o0.7,asw00.8,7x6o0.7,asw00.8,7x6o0.7,b5uo0.8,7k800.7,b5uo0.8,7k800.7,b5uo0.8,7k800.7,b5uo0.8,7x6o0.7,asw00.8,7x6o0.7,asw00.8|CET-1CEST,M3.5.0,M10.5.0/3"),
  ("Europe/Riga", "5794,0;5794,0;9394,1;7200,0;10800,0;3600,0;7200,1;7200,1;14400,1;10800,0;14400,1;10800,1;7200,0;10800,1;7200,0|-1ayy74y.1,jzalk0.2,7x6o0.1,a4tc0.2,2mg00.1,3myns0.3,7fhlky.4,gz180.7,p5v40.5,7k800.6,9q000.5,9d1c0.6,9d1c0.5,k7s0.4,j14ns0.8,9et80.4,9d440.8,9et80.4,9d440.8,9et80.4,9eys0.8,9d6w0.9,9d1c0.a,9d1c0.9,9d1c0.a,9d1c0.9,9d1c0.a,9d1c0.9,9d1c0.a,9d1c0.9,9d1c0.b,9d440.c,9d1c0.b,9q000.c,9d1c0.b,9d1c0.c,9d1c0.b,9d1c0.c,9d1c0.b,9d1c0.c,9d1c0.b,9d1c0.c,9d1c0.b,9d1c0.c,9q000.b,9d1c0.c,9d440.d,asw00.e,7x6o0.d,asw00.e,7x6o0.d,b5uo0.e,qaao0.d,b5uo0.e,7x6o0.d,asw00.e,7x6o0.d,asw00.e,7x6o0.d,b5uo0.e,7k800.d,b5uo0.e,7k800.d,b5uo0.e,7k800.d,b5uo0.e,7x6o0.d,asw00.e,7x6o0.d,asw00.e,7x6o0.d,b5uo0.e,7k800.d,b5uo0.e,7k800.d,b5uo0.e,7x6o0.d,asw00.e,7x6o0.d,asw00.e,7x6o0.d,asw00.e,7x6o0.d,b5uo0.e,7k800.d,b5uo0.e,7k800.d,b5uo0.e,7x6o0.d,asw00.e,7x6o0.d,asw00.e,7x6o0.d,b5uo0.e,7k800.d,b5uo0.e,7k800.d,b5uo0.e,7x6o0.d,asw00.e,7x6o0.d,asw00.e,7x6o0.d,asw00.e,7x6o0.d,b5uo0.e,7k800.d,b5uo0.e,7k800.d,b5uo0.e,7x6o0.d,asw00.e,7x6o0.d,asw00.e,7x6o0.d,b5uo0.e,7k800.d,b5uo0.e,7k800.d,b5uo0.e,7k800.d,b5uo0.e,7x6o0.d,asw00.e,7x6o0.d,asw00.e|EET-2EEST,M3.5.0/3,M10.5.0/4"),
  ("Europe/Rome", "2996,0;2996,0;7200,1;3600,0;3600,0;7200,1;3600,0;7200,1|-1hs7rn8.1,e170v8.6,bsds00.2,64ak0.3,9d440.2,9et80.3,88dg0.2,aunw0.3,7ig40.2,b5rw0.3,8n6s0.2,9cyk0.3,aau2s0.2,18r9k0.4,7k800.5,9q000.4,9d1c0.5,8l9c0.4,a4tc0.2,8j940.3,9f1k0.5,afxc0.4,89zs0.5,afxc0.4,7kdk0.5,b5uo0.4,979rs0.5,6h980.3,cls40.5,64dc0.4,clpc0.5,64dc0.4,cyo00.5,64dc0.4,clpc0.5,64dc0.4,c8qo0.5,6hc00.4,clpc0.5,6hc00.4,clpc0.5,64dc0.4,c8qo0.5,6hc00.4,clpc0.5,64dc0.4,clpc0.5,64dc0.4,c8qo0.5,6hc00.4,clpc0.5,6hc00.4,c8qo0.5,6hc00.4,9q5k0.7,902o0.6,9d1c0.7,9d1c0.6,9d1c0.7,9d1c0.6,9d1c0.7,9d1c0.6,9d1c0.7,9q000.6,9d1c0.7,9d1c0.6,9d1c0.7,9d1c0.6,9d1c0.7,9d1c0.6,9d1c0.7,9d1c0.6,9d1c0.7,9d1c0.6,9d1c0.7,9q000.6,9d1c0.7,9d1c0.6,9d1c0.7,9d1c0.6,9d1c0.7,9d1c0.6,9d1c0.7,9d1c0.6,9d1c0.7,9d1c0.6,9q000.7,asw00.6,7x6o0.7,asw00.6,7x6o0.7,asw00.6,7x6o0.7,b5uo0.6,7k800.7,b5uo0.6,7k800.7,b5uo0.6,7x6o0.7,asw00.6,7x6o0.7,asw00.6,7x6o0.7,b5uo0.6,7k800.7,b5uo0.6,7k800.7,b5uo0.6,7k800.7,b5uo0.6,7x6o0.7,asw00.6,7x6o0.7,asw00.6,7x6o0.7,b5uo0.6,7k800.7,b5uo0.6,7k800.7,b5uo0.6,7x6o0.7,asw00.6,7x6o0.7,asw00.6,7x6o0.7,asw00.6,7x6o0.7,b5uo0.6,7k800.7,b5uo0.6,7k800.7,b5uo0.6,7x6o0.7,asw00.6,7x6o0.7,asw00.6,7x6o0.7,b5uo0.6,7k800.7,b5uo0.6,7k800.7,b5uo0.6,7x6o0.7,asw00.6,7x6o0.7,asw00.6,7x6o0.7,asw00.6,7x6o0.7,b5uo0.6,7k800.7,b5uo0.6,7k800.7,b5uo0.6,7x6o0.7,asw00.6,7x6o0.7,asw00.6,7x6o0.7,b5uo0.6,7k800.7,b5uo0.6,7k800.7,b5uo0.6,7k800.7,b5uo0.6,7x6o0.7,asw00.6,7x6o0.7,asw00.6|CET-1CEST,M3.5.0,M10.5.0/3"),
  ("Europe/Samara", "12020,0;10800,0;14400,0;18000,1;14400,0;18000,1;14400,1;10800,0;10800,1;14400,1;14400,0|-qcx400.1,5q5zo0.2,qi27w0.3,9et80.2,9d440.3,9et80.2,9d440.3,9et80.2,9eys0.3,9d6w0.4,9d1c0.5,9d1c0.4,9d1c0.5,9d1c0.4,9d1c0.5,9d1c0.4,9d1c0.5,9d1c0.4,9d1c0.6,9d440.7,9d1c0.6,9q000.7,9d1c0.8,9d440.7,12w00.2,89zs0.5,9d1c0.4,9d1c0.5,9d1c0.4,9d1c0.5,9d1c0.4,9d1c0.5,9d1c0.4,9q000.5,asw00.4,7x6o0.5,asw00.4,7x6o0.5,asw00.4,7x6o0.5,b5uo0.4,7k800.5,b5uo0.4,7k800.5,b5uo0.4,7x6o0.5,asw00.4,7x6o0.5,asw00.4,7x6o0.5,b5uo0.4,7k800.5,b5uo0.4,7k800.5,b5uo0.4,7k800.5,b5uo0.4,7x6o0.5,asw00.4,7x6o0.5,asw00.4,7x6o0.6,b5xg0.7,7k800.4,dzv7rj.4|<+04>-4"),
  ("Europe/Sarajevo", "4420,0;3600,0;3600,0;7200,1;7200,1;7200,1;3600,0|-18vsm2s.1,twhn6s.4,swz00.2,7k800.3,9q000.2,9d1c0.3,9d1c0.2,9d1c0.3,8l9c0.2,jl1hc0.5,9d1c0.6,9d1c0.5,9q000.6,9d1c0.5,9d1c0.6,9d1c0.5,9d1c0.6,9d1c0.5,9d1c0.6,9d1c0.5,9d1c0.6,9d1c0.5,9d1c0.6,9d1c0.5,9q000.6,9d1c0.5,9d1c0.6,9d1c0.5,9d1c0.6,9d1c0.5,9d1c0.6,9d1c0.5,9d1c0.6,9d1c0.5,9d1c0.6,9q000.5,asw00.6,7x6o0.5,asw00.6,7x6o0.5,asw00.6,7x6o0.5,b5uo0.6,7k800.5,b5uo0.6,7k800.5,b5uo0.6,7x6o0.5,asw00.6,7x6o0.5,asw00.6,7x6o0.5,b5uo0.6,7k800.5,b5uo0.6,7k800.5,b5uo0.6,7k800.5,b5uo0.6,7x6o0.5,asw00.6,7x6o0.5,asw00.6,7x6o0.5,b5uo0.6,7k800.5,b5uo0.6,7k800.5,b5uo0.6,7x6o0.5,asw00.6,7x6o0.5,asw00.6,7x6o0.5,asw00.6,7x6o0.5,b5uo0.6,7k800.5,b5uo0.6,7k800.5,b5uo0.6,7x6o0.5,asw00.6,7x6o0.5,asw00.6,7x6o0.5,b5uo0.6,7k800.5,b5uo0.6,7k800.5,b5uo0.6,7x6o0.5,asw00.6,7x6o0.5,asw00.6,7x6o0.5,asw00.6,7x6o0.5,b5uo0.6,7k800.5,b5uo0.6,7k800.5,b5uo0.6,7x6o0.5,asw00.6,7x6o0.5,asw00.6,7x6o0.5,b5uo0.6,7k800.5,b5uo0.6,7k800.5,b5uo0.6,7k800.5,b5uo0.6,7x6o0.5,asw00.6,7x6o0.5,asw00.6|CET-1CEST,M3.5.0,M10.5.0/3"),
  ("Europe/Saratov", "11058,0;10800,0;18000,1;14400,0;14400,0;18000,1;14400,1;10800,0;14400,0|-qcx400.1,5q5zo0.3,qi27w0.2,9et80.3,9d440.2,9et80.3,9d440.2,9et80.3,9eys0.2,9d6w0.4,9d1c0.5,9d1c0.4,9d1c0.5,9d1c0.4,9d1c0.5,9d1c0.4,9d1c0.6,9d440.7,9d1c0.6,9d1c0.7,9d1c0.6,9q000.7,9d1c0.4,ipzw0.6,9d440.7,9d1c0.6,9d1c0.7,9d1c0.6,9d1c0.7,9d1c0.6,9d1c0.7,9q000.6,asw00.7,7x6o0.6,asw00.7,7x6o0.6,asw00.7,7x6o0.6,b5uo0.7,7k800.6,b5uo0.7,7k800.6,b5uo0.7,7x6o0.6,asw00.7,7x6o0.6,asw00.7,7x6o0.6,b5uo0.7,7k800.6,b5uo0.7,7k800.6,b5uo0.7,7k800.6,b5uo0.7,7x6o0.6,asw00.7,7x6o0.6,asw00.7,7x6o0.6,b5uo0.7,7k800.4,1vbzw0.7,13m040.4,b0x7rj.4|<+04>-4"),
  ("Europe/Simferopol", "8184,0;8160,0;7200,0;10800,0;3600,0;7200,1;7200,1;14400,1;10800,0;14400,1;10800,1;7200,0;10800,1;7200,0;14400,0;10800,0|-1ayy8zc.1,n4x6oo.2,37a0qo.3,5xiyk0.6,iu340.4,7k800.5,9q000.4,9d1c0.5,iac0.3,jajmk0.7,9et80.3,9d440.7,9et80.3,9d440.7,9et80.3,9eys0.7,9d6w0.8,9d1c0.9,9d1c0.8,9d1c0.9,9d1c0.8,9d1c0.9,9d1c0.8,9d1c0.9,9d1c0.8,9d1c0.9,9d1c0.8,eeio0.2,wrpg0.a,9d1c0.b,9d1c0.a,9d1c0.b,9d1c0.a,1sl00.7,7kdk0.8,9d1c0.9,9d1c0.8,9pug0.9,at4c0.8,7x9g0.c,asw00.d,7x6o0.c,asw00.d,7x6o0.c,b5uo0.d,7k800.c,b5uo0.d,7k800.c,b5uo0.d,7x6o0.c,asw00.d,7x6o0.c,asw00.d,7x6o0.c,b5uo0.d,7k800.c,b5uo0.d,7k800.c,b5uo0.d,7k800.c,b5uo0.d,7x6o0.c,asw00.d,7x6o0.c,asw00.d,7x6o0.c,b5uo0.d,7k800.c,b5uo0.d,7k800.c,b5uo0.d,7x6o0.c,asw00.d,7x3w0.e,asqg0.8|MSK-3"),
  ("Europe/Skopje", "5144,0;3600,0;3600,0;7200,1;7200,1;7200,1;3600,0|-18vsmmw.1,twhnqw.4,swz00.2,7k800.3,9q000.2,9d1c0.3,9d1c0.2,9d1c0.3,8l9c0.2,jl1hc0.5,9d1c0.6,9d1c0.5,9q000.6,9d1c0.5,9d1c0.6,9d1c0.5,9d1c0.6,9d1c0.5,9d1c0.6,9d1c0.5,9d1c0.6,9d1c0.5,9d1c0.6,9d1c0.5,9q000.6,9d1c0.5,9d1c0.6,9d1c0.5,9d1c0.6,9d1c0.5,9d1c0.6,9d1c0.5,9d1c0.6,9d1c0.5,9d1c0.6,9q000.5,asw00.6,7x6o0.5,asw00.6,7x6o0.5,asw00.6,7x6o0.5,b5uo0.6,7k800.5,b5uo0.6,7k800.5,b5uo0.6,7x6o0.5,asw00.6,7x6o0.5,asw00.6,7x6o0.5,b5uo0.6,7k800.5,b5uo0.6,7k800.5,b5uo0.6,7k800.5,b5uo0.6,7x6o0.5,asw00.6,7x6o0.5,asw00.6,7x6o0.5,b5uo0.6,7k800.5,b5uo0.6,7k800.5,b5uo0.6,7x6o0.5,asw00.6,7x6o0.5,asw00.6,7x6o0.5,asw00.6,7x6o0.5,b5uo0.6,7k800.5,b5uo0.6,7k800.5,b5uo0.6,7x6o0.5,asw00.6,7x6o0.5,asw00.6,7x6o0.5,b5uo0.6,7k800.5,b5uo0.6,7k800.5,b5uo0.6,7x6o0.5,asw00.6,7x6o0.5,asw00.6,7x6o0.5,asw00.6,7x6o0.5,b5uo0.6,7k800.5,b5uo0.6,7k800.5,b5uo0.6,7x6o0.5,asw00.6,7x6o0.5,asw00.6,7x6o0.5,b5uo0.6,7k800.5,b5uo0.6,7k800.5,b5uo0.6,7k800.5,b5uo0.6,7x6o0.5,asw00.6,7x6o0.5,asw00.6|CET-1CEST,M3.5.0,M10.5.0/3"),
  ("Europe/Sofia", "5596,0;7016,0;7200,0;3600,0;7200,1;10800,1;7200,0;10800,1;10800,1;7200,0|-1ayy6zg.1,7s708k.2,p0d6uw.3,7k800.4,9q000.3,9d1c0.4,9d1c0.3,9d440.2,hqq240.5,9eys0.2,9o2k0.5,92040.2,9o2k0.5,90880.2,9pug0.5,90b00.6,9d1c0.7,9d1c0.6,9d1c0.7,9q000.6,9d1c0.7,9d1c0.6,9d1c0.7,9d1c0.6,9d1c0.7,9d1c0.6,9d1c0.7,9d1c0.6,9d1c0.7,9d1c0.6,9d1c0.7,9q000.6,9cvs0.5,9cyk0.2,9d440.5,9cyk0.2,9d440.5,9cyk0.2,9d440.5,9cyk0.2,9d440.5,9cyk0.2,9q2s0.5,ast80.2,7xhs0.8,asw00.9,7x6o0.8,asw00.9,7x6o0.8,b5uo0.9,7k800.8,b5uo0.9,7k800.8,b5uo0.9,7x6o0.8,asw00.9,7x6o0.8,asw00.9,7x6o0.8,b5uo0.9,7k800.8,b5uo0.9,7k800.8,b5uo0.9,7k800.8,b5uo0.9,7x6o0.8,asw00.9,7x6o0.8,asw00.9,7x6o0.8,b5uo0.9,7k800.8,b5uo0.9,7k800.8,b5uo0.9,7x6o0.8,asw00.9,7x6o0.8,asw00.9,7x6o0.8,asw00.9,7x6o0.8,b5uo0.9,7k800.8,b5uo0.9,7k800.8,b5uo0.9,7x6o0.8,asw00.9,7x6o0.8,asw00.9,7x6o0.8,b5uo0.9,7k800.8,b5uo0.9,7k800.8,b5uo0.9,7x6o0.8,asw00.9,7x6o0.8,asw00.9,7x6o0.8,asw00.9,7x6o0.8,b5uo0.9,7k800.8,b5uo0.9,7k800.8,b5uo0.9,7x6o0.8,asw00.9,7x6o0.8,asw00.9,7x6o0.8,b5uo0.9,7k800.8,b5uo0.9,7k800.8,b5uo0.9,7k800.8,b5uo0.9,7x6o0.8,asw00.9,7x6o0.8,asw00.9|EET-2EEST,M3.5.0/3,M10.5.0/4"),
  ("Europe/Stockholm", "4332,0;3614,0;3600,0;7200,1;7200,1;3600,0|-1bhq3cc.1,ayjpvy.2,8jiake.3,75hg0.2,x5bew0.4,902o0.5,9d1c0.4,9d1c0.5,9d1c0.4,9d1c0.5,9d1c0.4,9d1c0.5,9d1c0.4,9q000.5,9d1c0.4,9d1c0.5,9d1c0.4,9d1c0.5,9d1c0.4,9d1c0.5,9d1c0.4,9d1c0.5,9d1c0.4,9d1c0.5,9d1c0.4,9q000.5,9d1c0.4,9d1c0.5,9d1c0.4,9d1c0.5,9d1c0.4,9d1c0.5,9d1c0.4,9d1c0.5,9d1c0.4,9d1c0.5,9q000.4,asw00.5,7x6o0.4,asw00.5,7x6o0.4,asw00.5,7x6o0.4,b5uo0.5,7k800.4,b5uo0.5,7k800.4,b5uo0.5,7x6o0.4,asw00.5,7x6o0.4,asw00.5,7x6o0.4,b5uo0.5,7k800.4,b5uo0.5,7k800.4,b5uo0.5,7k800.4,b5uo0.5,7x6o0.4,asw00.5,7x6o0.4,asw00.5,7x6o0.4,b5uo0.5,7k800.4,b5uo0.5,7k800.4,b5uo0.5,7x6o0.4,asw00.5,7x6o0.4,asw00.5,7x6o0.4,asw00.5,7x6o0.4,b5uo0.5,7k800.4,b5uo0.5,7k800.4,b5uo0.5,7x6o0.4,asw00.5,7x6o0.4,asw00.5,7x6o0.4,b5uo0.5,7k800.4,b5uo0.5,7k800.4,b5uo0.5,7x6o0.4,asw00.5,7x6o0.4,asw00.5,7x6o0.4,asw00.5,7x6o0.4,b5uo0.5,7k800.4,b5uo0.5,7k800.4,b5uo0.5,7x6o0.4,asw00.5,7x6o0.4,asw00.5,7x6o0.4,b5uo0.5,7k800.4,b5uo0.5,7k800.4,b5uo0.5,7k800.4,b5uo0.5,7x6o0.4,asw00.5,7x6o0.4,asw00.5|CET-1CEST,M3.5.0,M10.5.0/3"),
  ("Europe/Tallinn", "5940,0;5940,0;7200,1;3600,0;3600,0;7200,0;10800,0;7200,1;14400,1;10800,0;14400,1;10800,1;7200,0;7200,0;10800,1|-1ayy790.1,jvj9c0.4,3re10.2,7x6o0.3,et6g0.1,ygov0.5,a1zgd0.6,ktx80.7,l94g0.3,7k800.2,9q000.3,9d1c0.2,8uac0.6,j27mk0.8,9et80.6,9d440.8,9et80.6,9d440.8,9et80.6,9eys0.8,9d6w0.9,9d1c0.a,9d1c0.9,9d1c0.a,9d1c0.9,9d1c0.a,9d1c0.9,9d1c0.a,9d1c0.9,9d1c0.b,9d440.c,9d1c0.b,9q000.c,9d1c0.b,9d1c0.c,9d1c0.b,9d1c0.c,9d1c0.b,9d1c0.c,9d1c0.b,9d1c0.c,9d1c0.b,9d1c0.c,9q000.b,asw00.c,7x6o0.b,asw00.c,7x6o0.b,asys0.d,7x6o0.e,b5uo0.5,19dc00.e,asw00.d,7x6o0.e,asw00.d,7x6o0.e,b5uo0.d,7k800.e,b5uo0.d,7k800.e,b5uo0.d,7k800.e,b5uo0.d,7x6o0.e,asw00.d,7x6o0.e,asw00.d,7x6o0.e,b5uo0.d,7k800.e,b5uo0.d,7k800.e,b5uo0.d,7x6o0.e,asw00.d,7x6o0.e,asw00.d,7x6o0.e,asw00.d,7x6o0.e,b5uo0.d,7k800.e,b5uo0.d,7k800.e,b5uo0.d,7x6o0.e,asw00.d,7x6o0.e,asw00.d,7x6o0.e,b5uo0.d,7k800.e,b5uo0.d,7k800.e,b5uo0.d,7x6o0.e,asw00.d,7x6o0.e,asw00.d,7x6o0.e,asw00.d,7x6o0.e,b5uo0.d,7k800.e,b5uo0.d,7k800.e,b5uo0.d,7x6o0.e,asw00.d,7x6o0.e,asw00.d,7x6o0.e,b5uo0.d,7k800.e,b5uo0.d,7k800.e,b5uo0.d,7k800.e,b5uo0.d,7x6o0.e,asw00.d,7x6o0.e,asw00.d|EET-2EEST,M3.5.0/3,M10.5.0/4"),
  ("Europe/Tirane", "4760,0;3600,0;7200,1;3600,0;7200,1|-t85vo8.1,dt2gw8.2,18pew0.1,7k800.2,m800.1,g7ot40.2,7rjw0.1,autg0.2,7x3w0.1,ayis0.2,7x3w0.1,b5xg0.2,7k580.1,b42s0.2,7lzw0.1,b42s0.2,7lzw0.1,b42s0.2,7x3w0.1,ahus0.2,7x3w0.1,b5xg0.2,7x3w0.1,a4w40.2,8jbw0.1,9eys0.2,9d6w0.3,9d1c0.4,9d1c0.3,9d1c0.4,9d1c0.3,9d1c0.4,9d1c0.3,9d1c0.4,9d1c0.3,9d1c0.4,9d1c0.3,9d1c0.4,9q000.3,9d1c0.4,9d1c0.3,9d1c0.4,9d1c0.3,9d1c0.4,9d1c0.3,9d1c0.4,9d1c0.3,9d1c0.4,9d1c0.3,9q000.4,asw00.3,7x6o0.4,asw00.3,7x6o0.4,asw00.3,7x6o0.4,b5uo0.3,7k800.4,b5uo0.3,7k800.4,b5uo0.3,7x6o0.4,asw00.3,7x6o0.4,asw00.3,7x6o0.4,b5uo0.3,7k800.4,b5uo0.3,7k800.4,b5uo0.3,7k800.4,b5uo0.3,7x6o0.4,asw00.3,7x6o0.4,asw00.3,7x6o0.4,b5uo0.3,7k800.4,b5uo0.3,7k800.4,b5uo0.3,7x6o0.4,asw00.3,7x6o0.4,asw00.3,7x6o0.4,asw00.3,7x6o0.4,b5uo0.3,7k800.4,b5uo0.3,7k800.4,b5uo0.3,7x6o0.4,asw00.3,7x6o0.4,asw00.3,7x6o0.4,b5uo0.3,7k800.4,b5uo0.3,7k800.4,b5uo0.3,7x6o0.4,asw00.3,7x6o0.4,asw00.3,7x6o0.4,asw00.3,7x6o0.4,b5uo0.3,7k800.4,b5uo0.3,7k800.4,b5uo0.3,7x6o0.4,asw00.3,7x6o0.4,asw00.3,7x6o0.4,b5uo0.3,7k800.4,b5uo0.3,7k800.4,b5uo0.3,7k800.4,b5uo0.3,7x6o0.4,asw00.3,7x6o0.4,asw00.3|CET-1CEST,M3.5.0,M10.5.0/3"),
  ("Europe/Ulyanovsk", "11616,0;10800,0;18000,1;14400,0;14400,0;18000,1;14400,1;10800,0;10800,1;7200,0;14400,1;14400,0|-qcx400.1,5q5zo0.3,qi27w0.2,9et80.3,9d440.2,9et80.3,9d440.2,9et80.3,9eys0.2,9d6w0.4,9d1c0.5,9d1c0.4,9d1c0.5,9d1c0.4,9d1c0.5,9d1c0.4,9d1c0.5,9d1c0.4,9d1c0.6,9d440.7,9d1c0.6,9q000.7,9d1c0.8,9d440.9,5reo0.7,3ljw0.6,9d1c0.7,9d1c0.6,9d1c0.7,9d1c0.6,9d1c0.7,9d1c0.6,9d1c0.7,9q000.6,asw00.7,7x6o0.6,asw00.7,7x6o0.6,asw00.7,7x6o0.6,b5uo0.7,7k800.6,b5uo0.7,7k800.6,b5uo0.7,7x6o0.6,asw00.7,7x6o0.6,asw00.7,7x6o0.6,b5uo0.7,7k800.6,b5uo0.7,7k800.6,b5uo0.7,7k800.6,b5uo0.7,7x6o0.6,asw00.7,7x6o0.6,asw00.7,7x6o0.6,b5uo0.7,7k800.4,1vbzw0.7,qnc40.4,bdvvrj.4|<+04>-4"),
  ("Europe/Vaduz", "2284,0;7200,1;3600,0;7200,1;3600,0|-13g44fg.2,ohmxrg.1,7x6o0.2,asw00.1,7x6o0.2,k2zus0.3,9d1c0.4,9d1c0.3,9d1c0.4,9d1c0.3,9d1c0.4,9d1c0.3,9q000.4,9d1c0.3,9d1c0.4,9d1c0.3,9d1c0.4,9d1c0.3,9d1c0.4,9d1c0.3,9d1c0.4,9d1c0.3,9d1c0.4,9d1c0.3,9q000.4,9d1c0.3,9d1c0.4,9d1c0.3,9d1c0.4,9d1c0.3,9d1c0.4,9d1c0.3,9d1c0.4,9d1c0.3,9d1c0.4,9q000.3,asw00.4,7x6o0.3,asw00.4,7x6o0.3,asw00.4,7x6o0.3,b5uo0.4,7k800.3,b5uo0.4,7k800.3,b5uo0.4,7x6o0.3,asw00.4,7x6o0.3,asw00.4,7x6o0.3,b5uo0.4,7k800.3,b5uo0.4,7k800.3,b5uo0.4,7k800.3,b5uo0.4,7x6o0.3,asw00.4,7x6o0.3,asw00.4,7x6o0.3,b5uo0.4,7k800.3,b5uo0.4,7k800.3,b5uo0.4,7x6o0.3,asw00.4,7x6o0.3,asw00.4,7x6o0.3,asw00.4,7x6o0.3,b5uo0.4,7k800.3,b5uo0.4,7k800.3,b5uo0.4,7x6o0.3,asw00.4,7x6o0.3,asw00.4,7x6o0.3,b5uo0.4,7k800.3,b5uo0.4,7k800.3,b5uo0.4,7x6o0.3,asw00.4,7x6o0.3,asw00.4,7x6o0.3,asw00.4,7x6o0.3,b5uo0.4,7k800.3,b5uo0.4,7k800.3,b5uo0.4,7x6o0.3,asw00.4,7x6o0.3,asw00.4,7x6o0.3,b5uo0.4,7k800.3,b5uo0.4,7k800.3,b5uo0.4,7k800.3,b5uo0.4,7x6o0.3,asw00.4,7x6o0.3,asw00.4|CET-1CEST,M3.5.0,M10.5.0/3"),
  ("Europe/Vienna", "3921,0;7200,1;3600,0;7200,1;3600,0;7200,1;3600,0|-14211ox.2,c1n1gx.1,7ves0.2,a4yw0.3,7x6o0.4,asw00.3,7x6o0.4,t6000.3,8a5c0.4,a7a800.3,1cm000.4,7k800.3,9q000.4,9d1c0.3,9d1c0.4,9d1c0.3,iio0.4,ivmo0.3,91xc0.4,9b6o0.3,9d1c0.4,a2yo0.3,8n400.4,gfyyg0.1,8zzw0.2,9d9o0.5,9d1c0.6,9d1c0.5,9d1c0.6,9d1c0.5,9d1c0.6,9d1c0.5,9q000.6,9d1c0.5,9d1c0.6,9d1c0.5,9d1c0.6,9d1c0.5,9d1c0.6,9d1c0.5,9d1c0.6,9d1c0.5,9d1c0.6,9d1c0.5,9q000.6,9d1c0.5,9d1c0.6,9d1c0.5,9d1c0.6,9d1c0.5,9d1c0.6,9d1c0.5,9d1c0.6,9d1c0.5,9d1c0.6,9q000.5,asw00.6,7x6o0.5,asw00.6,7x6o0.5,asw00.6,7x6o0.5,b5uo0.6,7k800.5,b5uo0.6,7k800.5,b5uo0.6,7x6o0.5,asw00.6,7x6o0.5,asw00.6,7x6o0.5,b5uo0.6,7k800.5,b5uo0.6,7k800.5,b5uo0.6,7k800.5,b5uo0.6,7x6o0.5,asw00.6,7x6o0.5,asw00.6,7x6o0.5,b5uo0.6,7k800.5,b5uo0.6,7k800.5,b5uo0.6,7x6o0.5,asw00.6,7x6o0.5,asw00.6,7x6o0.5,asw00.6,7x6o0.5,b5uo0.6,7k800.5,b5uo0.6,7k800.5,b5uo0.6,7x6o0.5,asw00.6,7x6o0.5,asw00.6,7x6o0.5,b5uo0.6,7k800.5,b5uo0.6,7k800.5,b5uo0.6,7x6o0.5,asw00.6,7x6o0.5,asw00.6,7x6o0.5,asw00.6,7x6o0.5,b5uo0.6,7k800.5,b5uo0.6,7k800.5,b5uo0.6,7x6o0.5,asw00.6,7x6o0.5,asw00.6,7x6o0.5,b5uo0.6,7k800.5,b5uo0.6,7k800.5,b5uo0.6,7k800.5,b5uo0.6,7x6o0.5,asw00.6,7x6o0.5,asw00.6|CET-1CEST,M3.5.0,M10.5.0/3"),
  ("Europe/Vilnius", "6076,0;5040,0;5736,0;3600,0;7200,0;10800,0;3600,0;7200,1;7200,1;14400,1;10800,0;14400,1;10800,1;7200,0;7200,1;3600,0;7200,0;10800,1|-1ayy7cs.1,jb5y4s.2,1g224o.3,e75nc.4,4kqk0.3,acbs40.5,gpp40.8,pits0.6,7k800.7,9q000.6,9d1c0.7,65zo0.5,j4vx80.9,9et80.5,9d440.9,9et80.5,9d440.9,9et80.5,9eys0.9,9d6w0.a,9d1c0.b,9d1c0.a,9d1c0.b,9d1c0.a,9d1c0.b,9d1c0.a,9d1c0.b,9d1c0.a,9d1c0.c,9d440.d,9d1c0.c,9q000.d,9d1c0.c,9d1c0.d,9d1c0.c,9d1c0.d,9d1c0.c,9d1c0.d,9d1c0.c,9d1c0.d,9d1c0.c,9d1c0.d,9q000.c,asw00.d,7x6o0.c,asw00.d,7x9g0.e,asw00.f,7x6o0.e,b5uo0.g,1s3eo0.h,asw00.g,7x6o0.h,b5uo0.g,7k800.h,b5uo0.g,7k800.h,b5uo0.g,7k800.h,b5uo0.g,7x6o0.h,asw00.g,7x6o0.h,asw00.g,7x6o0.h,b5uo0.g,7k800.h,b5uo0.g,7k800.h,b5uo0.g,7x6o0.h,asw00.g,7x6o0.h,asw00.g,7x6o0.h,asw00.g,7x6o0.h,b5uo0.g,7k800.h,b5uo0.g,7k800.h,b5uo0.g,7x6o0.h,asw00.g,7x6o0.h,asw00.g,7x6o0.h,b5uo0.g,7k800.h,b5uo0.g,7k800.h,b5uo0.g,7x6o0.h,asw00.g,7x6o0.h,asw00.g,7x6o0.h,asw00.g,7x6o0.h,b5uo0.g,7k800.h,b5uo0.g,7k800.h,b5uo0.g,7x6o0.h,asw00.g,7x6o0.h,asw00.g,7x6o0.h,b5uo0.g,7k800.h,b5uo0.g,7k800.h,b5uo0.g,7k800.h,b5uo0.g,7x6o0.h,asw00.g,7x6o0.h,asw00.g|EET-2EEST,M3.5.0/3,M10.5.0/4"),
  ("Europe/Volgograd", "10660,0;10800,0;14400,0;18000,1;14400,0;18000,1;14400,1;10800,0;14400,0;10800,0|-q3cw84.1,5glrw4.2,qi27w0.3,9et80.2,9d440.3,9et80.2,9d440.3,9et80.2,9eys0.3,9d6w0.4,9d1c0.5,9d1c0.4,9d1c0.5,9d1c0.4,9d1c0.5,9d1c0.4,9d1c0.6,9d440.7,9d1c0.6,9d1c0.7,9d1c0.6,9q000.7,9d1c0.4,ipzw0.6,9d440.7,9d1c0.6,9d1c0.7,9d1c0.6,9d1c0.7,9d1c0.6,9d1c0.7,9q000.6,asw00.7,7x6o0.6,asw00.7,7x6o0.6,asw00.7,7x6o0.6,b5uo0.7,7k800.6,b5uo0.7,7k800.6,b5uo0.7,7x6o0.6,asw00.7,7x6o0.6,asw00.7,7x6o0.6,b5uo0.7,7k800.6,b5uo0.7,7k800.6,b5uo0.7,7k800.6,b5uo0.7,7x6o0.6,asw00.7,7x6o0.6,asw00.7,7x6o0.6,b5uo0.7,7k800.8,1vbzw0.7,239c40.4,14oqk0.7|MSK-3"),
  ("Europe/Warsaw", "5040,0;5040,0;7200,1;3600,0;7200,1;3600,0;10800,1;7200,0;7200,0;7200,1;3600,0|-1ayy6k0.1,iko800.3,dvyc0.2,7ves0.3,a4yw0.4,7x6o0.5,asw00.4,7x6o0.8,aunw0.6,7x6o0.7,1evbs0.3,9fcwc0.2,18cao0.5,7k800.4,9q000.5,9d1c0.4,9gnw0.3,an980.2,9kd80.3,8fs40.4,922w0.5,ar1c0.4,7x6o0.5,a2yo0.4,8n400.5,9q000.4,902o0.5,4013w0.4,64dc0.5,9d1c0.4,9d1c0.5,clpc0.4,6hc00.5,9d1c0.4,9d1c0.5,c8qo0.4,6hc00.5,c8qo0.4,6hc00.5,c8qo0.4,6hc00.5,clpc0.4,64dc0.5,6j4tc0.4,902o0.5,9q000.4,9d1c0.5,9d1c0.4,9d1c0.5,9q000.4,902o0.5,9d1c0.4,9d1c0.5,9d1c0.4,9d1c0.5,9d1c0.4,9d1c0.5,9d1c0.4,9q000.5,9d1c0.4,9d1c0.5,9d1c0.4,9d1c0.5,9d1c0.4,9d1c0.5,9d440.9,9d1c0.a,9d1c0.9,9d1c0.a,9d1c0.9,9q000.a,9d1c0.9,9d1c0.a,9d1c0.9,9d1c0.a,9d1c0.9,9d1c0.a,9d1c0.9,9d1c0.a,9d1c0.9,9d1c0.a,9q000.9,asw00.a,7x6o0.9,asw00.a,7x6o0.9,asw00.a,7x6o0.9,b5uo0.a,7k800.9,b5uo0.a,7k800.9,b5uo0.a,7x6o0.9,asw00.a,7x6o0.9,asw00.a,7x6o0.9,b5uo0.a,7k800.9,b5uo0.a,7k800.9,b5uo0.a,7k800.9,b5uo0.a,7x6o0.9,asw00.a,7x6o0.9,asw00.a,7x6o0.9,b5uo0.a,7k800.9,b5uo0.a,7k800.9,b5uo0.a,7x6o0.9,asw00.a,7x6o0.9,asw00.a,7x6o0.9,asw00.a,7x6o0.9,b5uo0.a,7k800.9,b5uo0.a,7k800.9,b5uo0.a,7x6o0.9,asw00.a,7x6o0.9,asw00.a,7x6o0.9,b5uo0.a,7k800.9,b5uo0.a,7k800.9,b5uo0.a,7x6o0.9,asw00.a,7x6o0.9,asw00.a,7x6o0.9,asw00.a,7x6o0.9,b5uo0.a,7k800.9,b5uo0.a,7k800.9,b5uo0.a,7x6o0.9,asw00.a,7x6o0.9,asw00.a,7x6o0.9,b5uo0.a,7k800.9,b5uo0.a,7k800.9,b5uo0.a,7k800.9,b5uo0.a,7x6o0.9,asw00.a,7x6o0.9,asw00.a|CET-1CEST,M3.5.0,M10.5.0/3"),
  ("Europe/Zagreb", "3832,0;3600,0;3600,0;7200,1;7200,1;7200,1;3600,0|-18vslmg.1,twhmqg.4,swz00.2,7k800.3,9q000.2,9d1c0.3,9d1c0.2,9d1c0.3,8l9c0.2,jl1hc0.5,9d1c0.6,9d1c0.5,9q000.6,9d1c0.5,9d1c0.6,9d1c0.5,9d1c0.6,9d1c0.5,9d1c0.6,9d1c0.5,9d1c0.6,9d1c0.5,9d1c0.6,9d1c0.5,9q000.6,9d1c0.5,9d1c0.6,9d1c0.5,9d1c0.6,9d1c0.5,9d1c0.6,9d1c0.5,9d1c0.6,9d1c0.5,9d1c0.6,9q000.5,asw00.6,7x6o0.5,asw00.6,7x6o0.5,asw00.6,7x6o0.5,b5uo0.6,7k800.5,b5uo0.6,7k800.5,b5uo0.6,7x6o0.5,asw00.6,7x6o0.5,asw00.6,7x6o0.5,b5uo0.6,7k800.5,b5uo0.6,7k800.5,b5uo0.6,7k800.5,b5uo0.6,7x6o0.5,asw00.6,7x6o0.5,asw00.6,7x6o0.5,b5uo0.6,7k800.5,b5uo0.6,7k800.5,b5uo0.6,7x6o0.5,asw00.6,7x6o0.5,asw00.6,7x6o0.5,asw00.6,7x6o0.5,b5uo0.6,7k800.5,b5uo0.6,7k800.5,b5uo0.6,7x6o0.5,asw00.6,7x6o0.5,asw00.6,7x6o0.5,b5uo0.6,7k800.5,b5uo0.6,7k800.5,b5uo0.6,7x6o0.5,asw00.6,7x6o0.5,asw00.6,7x6o0.5,asw00.6,7x6o0.5,b5uo0.6,7k800.5,b5uo0.6,7k800.5,b5uo0.6,7x6o0.5,asw00.6,7x6o0.5,asw00.6,7x6o0.5,b5uo0.6,7k800.5,b5uo0.6,7k800.5,b5uo0.6,7k800.5,b5uo0.6,7x6o0.5,asw00.6,7x6o0.5,asw00.6|CET-1CEST,M3.5.0,M10.5.0/3"),
  ("Europe/Zurich", "2048,0;1786,0;7200,1;3600,0;7200,1;3600,0|-1os49kw.1,lc05ja.3,ohmxdm.2,7x6o0.3,asw00.2,7x6o0.3,k2zus0.4,9d1c0.5,9d1c0.4,9d1c0.5,9d1c0.4,9d1c0.5,9d1c0.4,9q000.5,9d1c0.4,9d1c0.5,9d1c0.4,9d1c0.5,9d1c0.4,9d1c0.5,9d1c0.4,9d1c0.5,9d1c0.4,9d1c0.5,9d1c0.4,9q000.5,9d1c0.4,9d1c0.5,9d1c0.4,9d1c0.5,9d1c0.4,9d1c0.5,9d1c0.4,9d1c0.5,9d1c0.4,9d1c0.5,9q000.4,asw00.5,7x6o0.4,asw00.5,7x6o0.4,asw00.5,7x6o0.4,b5uo0.5,7k800.4,b5uo0.5,7k800.4,b5uo0.5,7x6o0.4,asw00.5,7x6o0.4,asw00.5,7x6o0.4,b5uo0.5,7k800.4,b5uo0.5,7k800.4,b5uo0.5,7k800.4,b5uo0.5,7x6o0.4,asw00.5,7x6o0.4,asw00.5,7x6o0.4,b5uo0.5,7k800.4,b5uo0.5,7k800.4,b5uo0.5,7x6o0.4,asw00.5,7x6o0.4,asw00.5,7x6o0.4,asw00.5,7x6o0.4,b5uo0.5,7k800.4,b5uo0.5,7k800.4,b5uo0.5,7x6o0.4,asw00.5,7x6o0.4,asw00.5,7x6o0.4,b5uo0.5,7k800.4,b5uo0.5,7k800.4,b5uo0.5,7x6o0.4,asw00.5,7x6o0.4,asw00.5,7x6o0.4,asw00.5,7x6o0.4,b5uo0.5,7k800.4,b5uo0.5,7k800.4,b5uo0.5,7x6o0.4,asw00.5,7x6o0.4,asw00.5,7x6o0.4,b5uo0.5,7k800.4,b5uo0.5,7k800.4,b5uo0.5,7k800.4,b5uo0.5,7x6o0.4,asw00.5,7x6o0.4,asw00.5|CET-1CEST,M3.5.0,M10.5.0/3"),
  ("Factory", "0,0||<-00>0"),
  ("HST", "-36000,0||HST10"),
  ("Indian/Antananarivo", "11404,0;10800,0;14400,1;10800,0|-uj8gss.1,m9lccs.2,4oio0.3|EAT-3"),
  ("Indian/Chagos", "17380,0;18000,0;21600,0|-wvpc2s.1,1ag64us.2,ly387j.2|<+06>-6"),
  ("Indian/Christmas", "25372,0;25200,0|-133iwws.1,22m2xwb.1|<+07>-7"),
  ("Indian/Cocos", "23260,0;23400,0|-10j6sm4.1,201qtln.1|<+0630>-6:30"),
  ("Indian/Comoro", "10384,0;10800,0|-uj8g0g.1|EAT-3"),
  ("Indian/Kerguelen", "0,0;18000,0|-afrs00.1,19ybszj.1|<+05>-5"),
  ("Indian/Mahe", "13308,0;14400,0|-wvp8xo.1,1we99x7.1|<+04>-4"),
  ("Indian/Maldives", "17640,0;17640,0;18000,0|-1ayyga0.1,15r19c0.2,14qh7xj.2|<+05>-5"),
  ("Indian/Mauritius", "13800,0;18000,1;14400,0|-wvp9bc.2,13jnu7c.1,8bx80.2,dd0wc0.1,7x3w0.2,f1binj.2|<+04>-4"),
  ("Indian/Mayotte", "10856,0;10800,0|-uj8gdk.1|EAT-3"),
  ("Indian/Reunion", "13312,0;14400,0|-uks29s.1,1u3c39b.1|<+04>-4"),
  ("MET", "3600,0;7200,1;7200,1;3600,0|-s0e080.1,7ves0.0,a4yw0.2,7x6o0.3,asw00.2,7x6o0.3,b8qdc0.2,1cm000.3,7k800.2,9q000.3,9d1c0.2,9d1c0.3,9d1c0.2,8l9c0.3,ggp1c0.2,902o0.3,9q000.2,9d1c0.3,9d1c0.2,9d1c0.3,9q000.2,902o0.3,9d1c0.2,9d1c0.3,9d1c0.2,9d1c0.3,9d1c0.2,9d1c0.3,9d1c0.2,9q000.3,9d1c0.2,9d1c0.3,9d1c0.2,9d1c0.3,9d1c0.2,9d1c0.3,9d1c0.2,9d1c0.3,9d1c0.2,9d1c0.3,9d1c0.2,9q000.3,9d1c0.2,9d1c0.3,9d1c0.2,9d1c0.3,9d1c0.2,9d1c0.3,9d1c0.2,9d1c0.3,9d1c0.2,9d1c0.3,9q000.2,asw00.3,7x6o0.2,asw00.3,7x6o0.2,asw00.3,7x6o0.2,b5uo0.3,7k800.2,b5uo0.3,7k800.2,b5uo0.3,7x6o0.2,asw00.3,7x6o0.2,asw00.3,7x6o0.2,b5uo0.3,7k800.2,b5uo0.3,7k800.2,b5uo0.3,7k800.2,b5uo0.3,7x6o0.2,asw00.3,7x6o0.2,asw00.3,7x6o0.2,b5uo0.3,7k800.2,b5uo0.3,7k800.2,b5uo0.3,7x6o0.2,asw00.3,7x6o0.2,asw00.3,7x6o0.2,asw00.3,7x6o0.2,b5uo0.3,7k800.2,b5uo0.3,7k800.2,b5uo0.3,7x6o0.2,asw00.3,7x6o0.2,asw00.3,7x6o0.2,b5uo0.3,7k800.2,b5uo0.3,7k800.2,b5uo0.3,7x6o0.2,asw00.3,7x6o0.2,asw00.3,7x6o0.2,asw00.3,7x6o0.2,b5uo0.3,7k800.2,b5uo0.3,7k800.2,b5uo0.3,7x6o0.2,asw00.3,7x6o0.2,asw00.3,7x6o0.2,b5uo0.3,7k800.2,b5uo0.3,7k800.2,b5uo0.3,7k800.2,b5uo0.3,7x6o0.2,asw00.3,7x6o0.2,asw00.3|MET-1MEST,M3.5.0,M10.5.0/3"),
  ("MST", "-25200,0||MST7"),
  ("MST7MDT", "-25200,0;-21600,1;-21600,1;-21600,1;-25200,0|-r0epo0.1,ast80.0,7x9g0.1,ast80.0,bmtus0.2,1tz5k0.3,2dvo0.0,b9gdg0.1,9cyk0.0,9d440.1,9cyk0.0,9d440.1,9cyk0.0,9d440.1,9cyk0.0,9d440.1,9px80.0,9d440.1,9cyk0.0,9d440.1,9cyk0.0,3lpg0.1,f4d80.0,64g40.1,clmk0.0,9d440.1,9px80.0,905g0.1,9px80.0,9d440.1,9cyk0.0,9d440.1,9cyk0.0,9d440.1,9cyk0.0,9d440.1,9cyk0.0,9d440.1,9px80.0,905g0.1,9px80.0,9d440.1,9cyk0.0,9d440.1,9cyk0.0,9d440.1,9cyk0.0,8a840.1,afuk0.0,8a840.1,ast80.0,7x9g0.1,ast80.0,7x9g0.1,ast80.0,8a840.1,afuk0.0,8a840.1,afuk0.0,8a840.1,ast80.0,7x9g0.1,ast80.0,7x9g0.1,ast80.0,8a840.1,afuk0.0,8a840.1,afuk0.0,8a840.1,afuk0.0,8a840.1,ast80.0,7x9g0.1,ast80.0,7x9g0.1,ast80.0,8a840.1,afuk0.0,8a840.1,afuk0.0,8a840.1,ast80.0,7x9g0.1,ast80.0,7x9g0.1,ast80.0,6udg0.1,c8nw0.0,6hes0.1,c8nw0.0,6hes0.1,c8nw0.0,6udg0.1,c8nw0.0,6hes0.1,c8nw0.0,6hes0.1,c8nw0.0,6hes0.1,c8nw0.0,6hes0.1,c8nw0.0,6hes0.1,c8nw0.0,6udg0.1,c8nw0.0,6hes0.1,c8nw0.0,6hes0.1,c8nw0.0,6hes0.1,c8nw0.0,6hes0.1,c8nw0.0,6udg0.1,c8nw0.0,6hes0.1,c8nw0.0,6hes0.1,c8nw0.0,6hes0.1,c8nw0.0,6hes0.1,c8nw0.0,6hes0.1,c8nw0.0,6udg0.1,c8nw0.0,6hes0.1,c8nw0.0,6hes0.1,c8nw0.0,6hes0.1,c8nw0.0,6hes0.1,c8nw0.0,6udg0.1,c8nw0.0,6hes0.1,c8nw0.0,6hes0.1,c8nw0.0,6hes0.1,c8nw0.0,6hes0.1,c8nw0.0,6hes0.1,c8nw0.0|MST7MDT,M3.2.0,M11.1.0"),
  ("PST8PDT", "-28800,0;-25200,1;-25200,1;-25200,1;-28800,0|-r0emw0.1,ast80.0,7x9g0.1,ast80.0,bmtus0.2,1tz2s0.3,2dyg0.0,b9gdg0.1,9cyk0.0,9d440.1,9cyk0.0,9d440.1,9cyk0.0,9d440.1,9cyk0.0,9d440.1,9px80.0,9d440.1,9cyk0.0,9d440.1,9cyk0.0,3lpg0.1,f4d80.0,64g40.1,clmk0.0,9d440.1,9px80.0,905g0.1,9px80.0,9d440.1,9cyk0.0,9d440.1,9cyk0.0,9d440.1,9cyk0.0,9d440.1,9cyk0.0,9d440.1,9px80.0,905g0.1,9px80.0,9d440.1,9cyk0.0,9d440.1,9cyk0.0,9d440.1,9cyk0.0,8a840.1,afuk0.0,8a840.1,ast80.0,7x9g0.1,ast80.0,7x9g0.1,ast80.0,8a840.1,afuk0.0,8a840.1,afuk0.0,8a840.1,ast80.0,7x9g0.1,ast80.0,7x9g0.1,ast80.0,8a840.1,afuk0.0,8a840.1,afuk0.0,8a840.1,afuk0.0,8a840.1,ast80.0,7x9g0.1,ast80.0,7x9g0.1,ast80.0,8a840.1,afuk0.0,8a840.1,afuk0.0,8a840.1,ast80.0,7x9g0.1,ast80.0,7x9g0.1,ast80.0,6udg0.1,c8nw0.0,6hes0.1,c8nw0.0,6hes0.1,c8nw0.0,6udg0.1,c8nw0.0,6hes0.1,c8nw0.0,6hes0.1,c8nw0.0,6hes0.1,c8nw0.0,6hes0.1,c8nw0.0,6hes0.1,c8nw0.0,6udg0.1,c8nw0.0,6hes0.1,c8nw0.0,6hes0.1,c8nw0.0,6hes0.1,c8nw0.0,6hes0.1,c8nw0.0,6udg0.1,c8nw0.0,6hes0.1,c8nw0.0,6hes0.1,c8nw0.0,6hes0.1,c8nw0.0,6hes0.1,c8nw0.0,6hes0.1,c8nw0.0,6udg0.1,c8nw0.0,6hes0.1,c8nw0.0,6hes0.1,c8nw0.0,6hes0.1,c8nw0.0,6hes0.1,c8nw0.0,6udg0.1,c8nw0.0,6hes0.1,c8nw0.0,6hes0.1,c8nw0.0,6hes0.1,c8nw0.0,6hes0.1,c8nw0.0,6hes0.1,c8nw0.0|PST8PDT,M3.2.0,M11.1.0"),
  ("Pacific/Apia", "45184,0;-41216,0;-41400,0;-36000,1;-39600,0;46800,0;50400,1|-14fxxj4.1,9nfeo0.2,kcrmt4.4,vp3la0.3,9odo0.4,902o0.3,4zbk0.6,4qog0.5,9d1c0.6,9q000.5,902o0.6,9q000.5,902o0.6,9q000.5,902o0.6,9q000.5,902o0.6,9q000.5,902o0.6,9q000.5,9d1c0.6,9q000.5,902o0.6,9q000.5,902o0.6,9q000.5,8rka3j.5|<+13>-13"),
  ("Pacific/Auckland", "41944,0;45000,1;41400,0;43200,1;46800,1;43200,0;43200,0|-1gsoz14.2,usn9z4.1,64ak0.2,biw40.3,7x5a0.2,asxe0.3,7x5a0.2,asxe0.3,7x5a0.2,asxe0.3,8a3y0.2,afyq0.3,8a3y0.2,afyq0.3,afvy0.2,7x820.3,asum0.2,7x820.3,asum0.2,7x820.3,asum0.2,7x820.3,asum0.2,7x820.3,b5ta0.2,7k9e0.3,b5ta0.2,7x820.3,2qrd20.6,f1tpk0.4,5reo0.5,clpc0.4,6uao0.5,c8qo0.4,6hc00.5,c8qo0.4,6hc00.5,c8qo0.4,6hc00.5,c8qo0.4,6hc00.5,c8qo0.4,6hc00.5,c8qo0.4,6uao0.5,c8qo0.4,6hc00.5,c8qo0.4,6hc00.5,c8qo0.4,6hc00.5,c8qo0.4,6hc00.5,c8qo0.4,6hc00.5,c8qo0.4,6uao0.5,c8qo0.4,6hc00.5,b5uo0.4,8a5c0.5,afxc0.4,8a5c0.5,afxc0.4,8a5c0.5,afxc0.4,8n400.5,a2yo0.4,8n400.5,a2yo0.4,8n400.5,a2yo0.4,8n400.5,afxc0.4,8a5c0.5,afxc0.4,8a5c0.5,afxc0.4,8n400.5,a2yo0.4,8n400.5,a2yo0.4,8n400.5,afxc0.4,8a5c0.5,afxc0.4,8a5c0.5,afxc0.4,8n400.5,a2yo0.4,8n400.5,a2yo0.4,8n400.5,a2yo0.4,8n400.5,a2yo0.4,9q000.5,902o0.4,9q000.5,902o0.4,9q000.5,902o0.4,9q000.5,902o0.4,9q000.5,9d1c0.4,9q000.5,902o0.4,9q000.5,902o0.4,9q000.5,902o0.4,9q000.5,902o0.4,9q000.5,902o0.4,9q000.5,9d1c0.4,9q000.5,902o0.4,9q000.5,902o0.4,9q000.5,902o0.4,9q000.5,902o0.4,9q000.5,902o0.4,a2yo0.5,902o0.4,9q000.5,902o0.4,9q000.5,902o0.4,9q000.5,902o0.4,9q000.5,902o0.4,9q000.5,9d1c0.4,9q000.5,902o0.4,9q000.5,902o0.4,9q000.5,902o0.4,9q000.5,902o0.4,9q000.5,902o0.4,9q000.5,9d1c0.4,9q000.5,902o0.4,9q000.5,902o0.4|NZST-12NZDT,M9.5.0,M4.1.0/3"),
  ("Pacific/Bougainville", "37336,0;35312,0;36000,0;32400,0;39600,0|-1ayyvh4.1,7tuc88.2,osc24w.3,1n05g0.2,1071c40.4,c1b0jj.4|<+11>-11"),
  ("Pacific/Chatham", "44028,0;44100,0;49500,1;45900,0;45900,0|-1gsp0n0.1,149qqm0.4,f1tq90.2,5reo0.3,clpc0.2,6uao0.3,c8qo0.2,6hc00.3,c8qo0.2,6hc00.3,c8qo0.2,6hc00.3,c8qo0.2,6hc00.3,c8qo0.2,6hc00.3,c8qo0.2,6uao0.3,c8qo0.2,6hc00.3,c8qo0.2,6hc00.3,c8qo0.2,6hc00.3,c8qo0.2,6hc00.3,c8qo0.2,6hc00.3,c8qo0.2,6uao0.3,c8qo0.2,6hc00.3,b5uo0.2,8a5c0.3,afxc0.2,8a5c0.3,afxc0.2,8a5c0.3,afxc0.2,8n400.3,a2yo0.2,8n400.3,a2yo0.2,8n400.3,a2yo0.2,8n400.3,afxc0.2,8a5c0.3,afxc0.2,8a5c0.3,afxc0.2,8n400.3,a2yo0.2,8n400.3,a2yo0.2,8n400.3,afxc0.2,8a5c0.3,afxc0.2,8a5c0.3,afxc0.2,8n400.3,a2yo0.2,8n400.3,a2yo0.2,8n400.3,a2yo0.2,8n400.3,a2yo0.2,9q000.3,902o0.2,9q000.3,902o0.2,9q000.3,902o0.2,9q000.3,902o0.2,9q000.3,9d1c0.2,9q000.3,902o0.2,9q000.3,902o0.2,9q000.3,902o0.2,9q000.3,902o0.2,9q000.3,902o0.2,9q000.3,9d1c0.2,9q000.3,902o0.2,9q000.3,902o0.2,9q000.3,902o0.2,9q000.3,902o0.2,9q000.3,902o0.2,a2yo0.3,902o0.2,9q000.3,902o0.2,9q000.3,902o0.2,9q000.3,902o0.2,9q000.3,902o0.2,9q000.3,9d1c0.2,9q000.3,902o0.2,9q000.3,902o0.2,9q000.3,902o0.2,9q000.3,902o0.2,9q000.3,902o0.2,9q000.3,9d1c0.2,9q000.3,902o0.2,9q000.3,902o0.2,5w4rj.2|<+1245>-12:45<+1345>,M9.5.0/2:45,M4.1.0/3:45"),
  ("Pacific/Chuuk", "-49972,0;36428,0;36000,0;32400,0;36000,0|-1t8j2rw.1,t83xc0.2,76a5nw.3,29hes0.2,bkenw0.3,29fk40.2,1c9ddzj.2|<+10>-10"),
  ("Pacific/Easter", "-26248,0;-26248,0;-21600,1;-25200,0;-25200,0;-21600,0;-18000,1|-15r0p2w.1,m9leo0.4,ivmeuw.2,7k580.3,c8tg0.2,6h980.3,a31g0.2,7x3w0.3,asys0.2,7x3w0.3,b5xg0.2,7k580.3,ag040.2,8a2k0.3,b5xg0.2,7k580.3,b5xg0.2,7x3w0.3,asys0.2,7x3w0.3,asys0.2,7x3w0.3,b5xg0.2,7k580.3,b5xg0.2,7k580.3,b5xg0.2,7x3w0.3,asys0.2,7x3w0.5,asys0.6,7x3w0.5,asys0.6,7x3w0.5,b5xg0.6,7k580.5,b5xg0.6,7k580.5,b5xg0.6,9cyk0.5,9d440.6,7x3w0.5,asys0.6,7x3w0.5,b5xg0.6,7k580.5,9q2s0.6,8zzw0.5,b5xg0.6,7x3w0.5,asys0.6,7x3w0.5,asys0.6,7x3w0.5,asys0.6,7x3w0.5,b5xg0.6,7k580.5,b5xg0.6,8n180.5,a31g0.6,7x3w0.5,a31g0.6,9px80.5,9q2s0.6,7x3w0.5,b5xg0.6,7k580.5,b5xg0.6,7k580.5,b5xg0.6,7k580.5,b5xg0.6,7x3w0.5,asys0.6,7x3w0.5,asys0.6,7x3w0.5,b5xg0.6,7k580.5,b5xg0.6,8n180.5,a31g0.6,7x3w0.5,asys0.6,8zzw0.5,9q2s0.6,ast80.5,5eis0.6,cyl80.5,6hes0.6,c8nw0.5,6udg0.6,bvp80.5,6udg0.6,vonw0.5,4olg0.6,e1h80.5,4olg0.6,e1h80.5,4olg0.6,c8nw0.5,7x9g0.6,ast80.5,7x9g0.6,ast80.5,7x9g0.6,ast80.5,8a840.6,afuk0.5,7x9g0.6,b5rw0.5,7x9g0.6,ast80.5,7x9g0.6,ast80.5,7x9g0.6,ast80.5,7x9g0.6,ast80.5,7x9g0.6,b5rw0.5,7kas0.6,b5rw0.5,7x9g0.6,ast80.5,7x9g0.6,ast80.5,7x9g0.6,ast80.5,7x9g0.6,ast80.5,7x9g0.6,b5rw0.5,7kas0.6,b5rw0.5,7x9g0.6,ast80.5,7x9g0.6,6xxvj.6|<-06>6<-05>,M9.1.6/22,M4.1.6/22"),
  ("Pacific/Efate", "40396,0;43200,1;39600,0;43200,1;39600,0|-u964i4.4,wbu364.1,51hc0.2,4y8qs0.3,9cyk0.4,9d440.3,9cyk0.4,9q2s0.3,8zzw0.4,9q2s0.3,9cyk0.4,9d440.3,9cyk0.4,9d440.3,9cyk0.4,9d440.3,9cyk0.4,9d440.3,9cyk0.4,9q2s0.3,64ak0.4,e1ms0.3,4ofw0.4,nh8ybj.4|<+11>-11"),
  ("Pacific/Fakaofo", "-41096,0;-39600,0;46800,0|-100dhmg.1,1lxe1ig.2,dljh3j.2|<+13>-13"),
  ("Pacific/Fiji", "42944,0;46800,1;43200,0|-sa2x4w.2,17bs00w.1,64dc0.2,cyo00.1,5reo0.2,53a5c0.1,64dc0.2,asw00.1,6uao0.2,bvs00.1,4oio0.2,e1k00.1,4oio0.2,eeio0.1,4bh80.2,erk40.1,3ylc0.2,erhc0.1,3ylc0.2,f4g00.1,3lmo0.2,f4g00.1,3lmo0.2,f4g00.1,3lmo0.2,fheo0.1,38o00.2,hn6o0.1,1fuo0.2,8vivfj.2|<+12>-12"),
  ("Pacific/Funafuti", "43012,0;43200,0|-100fais.1,1zizbib.1|<+12>-12"),
  ("Pacific/Galapagos", "-21504,0;-18000,0;-18000,1;-21600,0|-kcr62o.1,spdryo.3,3lsas0.2,3jp80.3,nglf3j.3|<-06>6"),
  ("Pacific/Gambier", "-32388,0;-32400,0|-tvndoc.1,1te7env.1|<-09>9"),
  ("Pacific/Guadalcanal", "38388,0;39600,0|-tvowac.1,1te8x9v.1|<+11>-11"),
  ("Pacific/Guam", "-51660,0;34740,0;36000,0;32400,0;39600,1;36000,0|-1t8j1h0.1,t83xc0.2,ld6pp0.3,1dl9g0.2,7s1k40.4,txp80.2,3frms0.4,qdrpo.2,7kgac.4,3ljw0.2,c8tg0.4,6u7w0.2,bvus0.4,6u7w0.2,16uo40.4,3ljw0.2,16aas0.4,4ivxo.2,cls2c.4,6h980.2,c65zw0.5|ChST-10"),
  ("Pacific/Honolulu", "-37886,0;-37800,0;-34200,1;-34200,1;-34200,1;-36000,0|-12lnw3m.1,jgnatm.2,13l00.1,4jvb00.3,1tyvu0.4,2e5e0.1,votg0.5|HST10"),
  ("Pacific/Kanton", "0,0;-43200,0;-39600,0;46800,0|-gvk800.1,lypqo0.2,7yiqk0.3,mgvrrj.3|<+13>-13"),
  ("Pacific/Kiritimati", "-37760,0;-38400,0;-36000,0;50400,0|-100dk74.1,153iz5s.2,7yirhc.3,mgvujj.3|<+14>-14"),
  ("Pacific/Kosrae", "-47284,0;39116,0;39600,0;32400,0;36000,0;43200,0;39600,0|-1t8j4uk.1,t83xc0.2,76a4yk.3,29hhk0.2,9cmd40.4,27sas0.3,29fk40.2,cm2540.5,f9l3w0.2,kdq4zj.2|<+11>-11"),
  ("Pacific/Kwajalein", "40160,0;39600,0;36000,0;32400,0;-43200,0;43200,0|-100f8bk.1,ise0fk.2,27sas0.3,1hjus0.1,ddxug0.4,cgv6k0.5,n6g2bj.5|<+12>-12"),
  ("Pacific/Majuro", "41088,0;39600,0;32400,0;36000,0;43200,0|-100f91c.1,76a6hc.2,29hhk0.1,9cmd40.3,27sas0.2,1h6w40.1,deat40.4,znb8vj.4|<+12>-12"),
  ("Pacific/Marquesas", "-33480,0;-34200,0|-tvncu0.1,1te7dtj.1|<-0930>9:30"),
  ("Pacific/Midway", "-42568,0;-39600,0;-36000,1;-39600,0|-100dghk.1,sx94dk.2,4ofw0.3|SST11"),
  ("Pacific/Nauru", "40060,0;41400,0;32400,0;43200,0|-pjxiws.1,ba66ys.2,1kwca0.1,hfzda0.3,urfndj.3|<+12>-12"),
  ("Pacific/Niue", "-40780,0;-40800,0;-39600,0|-8zbv78.1,63yiok.2,12dxdi7.2|<-11>11"),
  ("Pacific/Norfolk", "40312,0;40320,0;41400,0;45000,1;41400,0;39600,0;43200,1|-100f8fs.1,q3eins.2,cfj8q0.3,6hc00.4,l6nk00.5,239aq0.6,9d1c0.5,9d1c0.6,9d1c0.5,9d1c0.6,9d1c0.5,9d1c0.6,9d1c0.5,9d1c0.6,9q000.5,9d1c0.6,9d1c0.5,9d1c0.6,9d1c0.5,9d1c0.6,9d1c0.5,9d1c0.6,9d1c0.5,9d1c0.6,9d1c0.5,9q000.6,9d1c0.5,9d1c0.6,9d1c0.5,9d1c0.6,9d1c0.5,9d1c0.6,9d1c0.5,9d1c0.6,9d1c0.5,9d1c0.6,9d1c0.5,9q000.6,9d1c0.5,9d1c0.6,9d1c0.5,9d1c0.6,5j3bj.6|<+11>-11<+12>,M10.1.0,M4.1.0/3"),
  ("Pacific/Noumea", "39948,0;43200,1;39600,0;43200,1;39600,0|-u9645o.2,ye0ixo.1,4dbw0.2,ecqs0.1,4f6k0.2,99p700.3,4oio0.4,lc6nbj.4|<+11>-11"),
  ("Pacific/Pago_Pago", "45432,0;-40968,0;-39600,0|-14fxxq0.1,9nfeo0.2|SST11"),
  ("Pacific/Palau", "-54124,0;32276,0;32400,0|-1t8izkk.1,t83xc0.2,1ziz383.2|<+09>-9"),
  ("Pacific/Pitcairn", "-31220,0;-30600,0;-28800,0|-100dp8s.1,1esg26s.2,kqho1j.2|<-08>8"),
  ("Pacific/Pohnpei", "-48428,0;37972,0;39600,0;32400,0;36000,0;39600,0|-1t8j3ys.1,t83xc0.2,76a42s.3,29hhk0.2,9cmd40.4,27sas0.3,29fk40.2,1c9ddzj.2|<+11>-11"),
  ("Pacific/Port_Moresby", "35320,0;35312,0;36000,0|-1ayytx4.1,7tuao8.2,22nok8f.2|<+10>-10"),
  ("Pacific/Rarotonga", "48056,0;-38344,0;-37800,0;-36000,0;-34200,1|-10jifqw.1,rk6io0.2,dlv68w.4,5rbw0.3,c8s20.4,6ham0.3,c8s20.4,6ham0.3,c8s20.4,6u9a0.3,c8s20.4,6ham0.3,c8s20.4,6ham0.3,c8s20.4,6ham0.3,c8s20.4,6ham0.3,c8s20.4,6ham0.3,c8s20.4,6u9a0.3,c8s20.4,6ham0.3,c8s20.4,6ham0.3,c8s20.4,6ham0.3,ogumlj.3|<-10>10"),
  ("Pacific/Saipan", "-51420,0;34980,0;32400,0;39600,1;36000,0;36000,0|-1t8j1no.1,t83xc0.2,mpn8no.4,7t6as0.3,txp80.4,3frms0.3,qdrpo.4,7kgac.3,3ljw0.4,c8tg0.3,6u7w0.4,bvus0.3,6u7w0.4,16uo40.3,3ljw0.4,16aas0.3,4ivxo.4,cls2c.3,6h980.4,c65zw0.5|ChST-10"),
  ("Pacific/Tahiti", "-35896,0;-36000,0|-tvnayw.1,1te7byf.1|<-10>10"),
  ("Pacific/Tarawa", "41524,0;43200,0|-100f9dg.1,1zizacz.1|<+12>-12"),
  ("Pacific/Tongatapu", "44352,0;44400,0;46800,0;50400,1;46800,0;50400,1|-corjk0.1,7znjyo.2,k8amdc.3,8fpc0.4,bvs00.5,4bh80.2,eelg0.5,4bh80.2,7pmis0.5,3lmo0.2,ays7jj.2|<+13>-13"),
  ("Pacific/Wake", "39988,0;43200,0|-100f86s.1,1ziz96b.1|<+12>-12"),
  ("Pacific/Wallis", "44120,0;43200,0|-100fbdk.1,1zizcd3.1|<+12>-12"),
  ("WET", "0,0;3600,1;3600,1;0,0|3s9ms0.1,902o0.0,9q000.1,9d1c0.0,9d1c0.1,9d1c0.0,9q000.1,902o0.0,9d1c0.1,9d1c0.0,9d1c0.1,9d1c0.0,9d1c0.1,9d1c0.0,9d1c0.1,9q000.0,9d1c0.1,9d1c0.0,9d1c0.1,9d1c0.0,9d1c0.1,9d1c0.0,9d1c0.1,9d1c0.0,9d1c0.1,9d1c0.0,9d1c0.1,9q000.0,9d1c0.1,9d1c0.0,9d1c0.1,9d1c0.0,9d1c0.1,9d1c0.0,9d1c0.1,9d1c0.0,9d1c0.1,9d1c0.0,9q000.1,asw00.0,7x6o0.1,asw00.0,7x6o0.1,asw00.0,7x6o0.1,b5uo0.0,7k800.1,b5uo0.0,7k800.1,b5uo0.0,7x6o0.1,asw00.0,7x6o0.1,asw00.0,7x6o0.1,b5uo0.0,7k800.1,b5uo0.0,7k800.1,b5uo0.0,7k800.1,b5uo0.0,7x6o0.1,asw00.0,7x6o0.1,asw00.0,7x6o0.1,b5uo0.0,7k800.1,b5uo0.0,7k800.1,b5uo0.0,7x6o0.1,asw00.0,7x6o0.1,asw00.0,7x6o0.1,asw00.0,7x6o0.1,b5uo0.0,7k800.1,b5uo0.0,7k800.1,b5uo0.0,7x6o0.1,asw00.0,7x6o0.1,asw00.0,7x6o0.1,b5uo0.0,7k800.1,b5uo0.0,7k800.1,b5uo0.0,7x6o0.1,asw00.0,7x6o0.1,asw00.0,7x6o0.1,asw00.0,7x6o0.1,b5uo0.0,7k800.1,b5uo0.0,7k800.1,b5uo0.0,7x6o0.1,asw00.0,7x6o0.1,asw00.0,7x6o0.1,b5uo0.0,7k800.1,b5uo0.0,7k800.1,b5uo0.0,7k800.1,b5uo0.0,7x6o0.1,asw00.0,7x6o0.1,asw00.0|WET0WEST,M3.5.0/1,M10.5.0")]

/-- The names that stand for another zone, with that zone, sorted by name. -/
def zoneAliases : Array (String × String) := #[
  ("Africa/Asmera", "Africa/Nairobi"),
  ("Africa/Timbuktu", "Africa/Abidjan"),
  ("America/Argentina/ComodRivadavia", "America/Argentina/Catamarca"),
  ("America/Atka", "America/Adak"),
  ("America/Buenos_Aires", "America/Argentina/Buenos_Aires"),
  ("America/Catamarca", "America/Argentina/Catamarca"),
  ("America/Coral_Harbour", "America/Panama"),
  ("America/Cordoba", "America/Argentina/Cordoba"),
  ("America/Ensenada", "America/Tijuana"),
  ("America/Fort_Wayne", "America/Indiana/Indianapolis"),
  ("America/Godthab", "America/Nuuk"),
  ("America/Indianapolis", "America/Indiana/Indianapolis"),
  ("America/Jujuy", "America/Argentina/Jujuy"),
  ("America/Knox_IN", "America/Indiana/Knox"),
  ("America/Kralendijk", "America/Puerto_Rico"),
  ("America/Louisville", "America/Kentucky/Louisville"),
  ("America/Lower_Princes", "America/Puerto_Rico"),
  ("America/Marigot", "America/Puerto_Rico"),
  ("America/Mendoza", "America/Argentina/Mendoza"),
  ("America/Montreal", "America/Toronto"),
  ("America/Nipigon", "America/Toronto"),
  ("America/Pangnirtung", "America/Iqaluit"),
  ("America/Porto_Acre", "America/Rio_Branco"),
  ("America/Rainy_River", "America/Winnipeg"),
  ("America/Rosario", "America/Argentina/Cordoba"),
  ("America/Santa_Isabel", "America/Tijuana"),
  ("America/Shiprock", "America/Denver"),
  ("America/St_Barthelemy", "America/Puerto_Rico"),
  ("America/Thunder_Bay", "America/Toronto"),
  ("America/Virgin", "America/Puerto_Rico"),
  ("America/Yellowknife", "America/Edmonton"),
  ("Antarctica/South_Pole", "Pacific/Auckland"),
  ("Arctic/Longyearbyen", "Europe/Berlin"),
  ("Asia/Ashkhabad", "Asia/Ashgabat"),
  ("Asia/Calcutta", "Asia/Kolkata"),
  ("Asia/Choibalsan", "Asia/Ulaanbaatar"),
  ("Asia/Chongqing", "Asia/Shanghai"),
  ("Asia/Chungking", "Asia/Shanghai"),
  ("Asia/Dacca", "Asia/Dhaka"),
  ("Asia/Harbin", "Asia/Shanghai"),
  ("Asia/Istanbul", "Europe/Istanbul"),
  ("Asia/Kashgar", "Asia/Urumqi"),
  ("Asia/Katmandu", "Asia/Kathmandu"),
  ("Asia/Macao", "Asia/Macau"),
  ("Asia/Rangoon", "Asia/Yangon"),
  ("Asia/Saigon", "Asia/Ho_Chi_Minh"),
  ("Asia/Tel_Aviv", "Asia/Jerusalem"),
  ("Asia/Thimbu", "Asia/Thimphu"),
  ("Asia/Ujung_Pandang", "Asia/Makassar"),
  ("Asia/Ulan_Bator", "Asia/Ulaanbaatar"),
  ("Atlantic/Faeroe", "Atlantic/Faroe"),
  ("Atlantic/Jan_Mayen", "Europe/Berlin"),
  ("Australia/ACT", "Australia/Sydney"),
  ("Australia/Canberra", "Australia/Sydney"),
  ("Australia/Currie", "Australia/Hobart"),
  ("Australia/LHI", "Australia/Lord_Howe"),
  ("Australia/NSW", "Australia/Sydney"),
  ("Australia/North", "Australia/Darwin"),
  ("Australia/Queensland", "Australia/Brisbane"),
  ("Australia/South", "Australia/Adelaide"),
  ("Australia/Tasmania", "Australia/Hobart"),
  ("Australia/Victoria", "Australia/Melbourne"),
  ("Australia/West", "Australia/Perth"),
  ("Australia/Yancowinna", "Australia/Broken_Hill"),
  ("Brazil/Acre", "America/Rio_Branco"),
  ("Brazil/DeNoronha", "America/Noronha"),
  ("Brazil/East", "America/Sao_Paulo"),
  ("Brazil/West", "America/Manaus"),
  ("Canada/Atlantic", "America/Halifax"),
  ("Canada/Central", "America/Winnipeg"),
  ("Canada/Eastern", "America/Toronto"),
  ("Canada/Mountain", "America/Edmonton"),
  ("Canada/Newfoundland", "America/St_Johns"),
  ("Canada/Pacific", "America/Vancouver"),
  ("Canada/Saskatchewan", "America/Regina"),
  ("Canada/Yukon", "America/Whitehorse"),
  ("Chile/Continental", "America/Santiago"),
  ("Chile/EasterIsland", "Pacific/Easter"),
  ("Cuba", "America/Havana"),
  ("Egypt", "Africa/Cairo"),
  ("Eire", "Europe/Dublin"),
  ("Etc/GMT+0", "Etc/GMT"),
  ("Etc/GMT-0", "Etc/GMT"),
  ("Etc/GMT0", "Etc/GMT"),
  ("Etc/Greenwich", "Etc/GMT"),
  ("Etc/UTC", "Etc/UCT"),
  ("Etc/Universal", "Etc/UCT"),
  ("Etc/Zulu", "Etc/UCT"),
  ("Europe/Belfast", "Europe/London"),
  ("Europe/Bratislava", "Europe/Prague"),
  ("Europe/Busingen", "Europe/Zurich"),
  ("Europe/Kiev", "Europe/Kyiv"),
  ("Europe/Mariehamn", "Europe/Helsinki"),
  ("Europe/Nicosia", "Asia/Nicosia"),
  ("Europe/Podgorica", "Europe/Belgrade"),
  ("Europe/San_Marino", "Europe/Rome"),
  ("Europe/Tiraspol", "Europe/Chisinau"),
  ("Europe/Uzhgorod", "Europe/Kyiv"),
  ("Europe/Vatican", "Europe/Rome"),
  ("Europe/Zaporozhye", "Europe/Kyiv"),
  ("GB", "Europe/London"),
  ("GB-Eire", "Europe/London"),
  ("GMT", "Etc/GMT"),
  ("GMT+0", "Etc/GMT"),
  ("GMT-0", "Etc/GMT"),
  ("GMT0", "Etc/GMT"),
  ("Greenwich", "Etc/GMT"),
  ("Hongkong", "Asia/Hong_Kong"),
  ("Iceland", "Africa/Abidjan"),
  ("Iran", "Asia/Tehran"),
  ("Israel", "Asia/Jerusalem"),
  ("Jamaica", "America/Jamaica"),
  ("Japan", "Asia/Tokyo"),
  ("Kwajalein", "Pacific/Kwajalein"),
  ("Libya", "Africa/Tripoli"),
  ("Mexico/BajaNorte", "America/Tijuana"),
  ("Mexico/BajaSur", "America/Mazatlan"),
  ("Mexico/General", "America/Mexico_City"),
  ("NZ", "Pacific/Auckland"),
  ("NZ-CHAT", "Pacific/Chatham"),
  ("Navajo", "America/Denver"),
  ("PRC", "Asia/Shanghai"),
  ("Pacific/Enderbury", "Pacific/Kanton"),
  ("Pacific/Johnston", "Pacific/Honolulu"),
  ("Pacific/Ponape", "Pacific/Guadalcanal"),
  ("Pacific/Samoa", "Pacific/Pago_Pago"),
  ("Pacific/Truk", "Pacific/Port_Moresby"),
  ("Pacific/Yap", "Pacific/Port_Moresby"),
  ("Poland", "Europe/Warsaw"),
  ("Portugal", "Europe/Lisbon"),
  ("ROC", "Asia/Taipei"),
  ("ROK", "Asia/Seoul"),
  ("Singapore", "Asia/Singapore"),
  ("Turkey", "Europe/Istanbul"),
  ("UCT", "Etc/UCT"),
  ("US/Alaska", "America/Anchorage"),
  ("US/Aleutian", "America/Adak"),
  ("US/Arizona", "America/Phoenix"),
  ("US/Central", "America/Chicago"),
  ("US/East-Indiana", "America/Indiana/Indianapolis"),
  ("US/Eastern", "America/New_York"),
  ("US/Hawaii", "Pacific/Honolulu"),
  ("US/Indiana-Starke", "America/Indiana/Knox"),
  ("US/Michigan", "America/Detroit"),
  ("US/Mountain", "America/Denver"),
  ("US/Pacific", "America/Los_Angeles"),
  ("US/Samoa", "Pacific/Pago_Pago"),
  ("UTC", "Etc/UCT"),
  ("Universal", "Etc/UCT"),
  ("W-SU", "Europe/Moscow"),
  ("Zulu", "Etc/UCT")]

end ZoneData

end SwapArchive
