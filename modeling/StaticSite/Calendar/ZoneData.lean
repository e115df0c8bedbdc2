set_option autoImplicit false

/-! # Time zone data

The history of civil time in every named zone of the 2026a time zone database. A zone is one record:
its name, the rule for the time after its last recorded change, its kinds of local time (seconds
ahead of universal time and name, with a star between them for summer time; the first holds before
any change), and its changes. A change is the position of the kind of time that begins, as one base
36 digit, followed by the seconds since the change before it (the first since 1970-01-01), in base
36. A record goes on in the lines that begin with a blank. -/

namespace StaticSite.ZoneData

/-- The records of all zones, in the order of their names. -/
def records : String := r"Africa/Abidjan GMT0 -968:LMT,0:GMT 1-u9rgl4
Africa/Accra GMT0 -52:LMT,0:GMT,1200*+0020,1800:+0030,1800*+0030 1-s9p1ak 224aamk 11yhyo 2cjvlc
 169weo 2ci0xc 169weo 2ci0xc 169weo 2ci0xc 169weo 2cjvlc 169weo 2ci0xc 169weo 2ci0xc 169weo 2ci0xc
 169weo 2cjvlc 169weo 2ci0xc 169weo 2ci0xc 169weo 2ci0xc 169weo 2cjvlc 169weo 2ci0xc 169weo 2ci0xc
 169weo 2ci0xc 169weo 2cjvlc 169weo 2ci0xc 169weo 2ci0xc 169weo 2ci0xc 169weo 2683lc 1cloeo 2668xc
 1cloeo 31y8pc 121gem0 42fehm0 169vy0 4ci1e0 169vy0 4cjw20 169vy0 4ci1e0 169vy0 4ci1e0 169vy0
 4ci1e0 169vy0
Africa/Addis_Ababa EAT-3 9288:LMT,9320:ADMT,10800:EAT 1-1g6t8i0 2ymedb4
Africa/Algiers CET-1 732:LMT,561:PMT,0:WET,3600*WEST,3600:CET,7200*CEST 1-154gb8c 2afgo4r 32qx1nl
 25luo0 38y800 2a4tc0 37vc00 2auqo0 37idc0 2b7pc0 36sg00 2cyo00 37ayo0 253c00 39idxc0 23i040
 451mw0 5253uk0 49o2k0 592040 48l3s0 2jutc0 44uy840 23rdzw0 346xc00 27x6o0 32xco40 48n180 57x9g0
 49d440 2kiqg0 39d440 29q2s0 49cyk0
Africa/Asmara EAT-3 9332:LMT,9332:AMT,9320:ADMT,10800:EAT 1-1g6t8j8 2afrs00 3o6mlcc
Africa/Bamako GMT0 -1920:LMT,0:GMT,-3600:-01 1-u9rfuo 2bk956o 1dqe840
Africa/Bangui WAT-1 4460:LMT,3600:WAT 1-u9rkrw
Africa/Banjul GMT0 -3996:LMT,-3996:BMT,-3600:-01,0:GMT 1-u9re90 2b38800 34m1rp0
Africa/Bissau GMT0 -3740:LMT,-3600:-01,0:GMT 1-u9rek0 2wvoyo0
Africa/Blantyre CAT-2 8400:LMT,8470:ZMT,8460:ZMT,7200:CAT 1-ui1t5c 21j56m2 35qqlca
Africa/Brazzaville WAT-1 3668:LMT,3600:WAT 1-u9rk5w
Africa/Bujumbura CAT-2 7048:LMT,7200:CAT 1-15r1ers
Africa/Cairo EET-2EEST,M4.5.5/0,M10.5.4/24 7509:LMT,7200:EET,10800*EEST 1-1054wgl 2krj48l 140d80
 2a31g0 17x3w0 2a4w40 1aqyk0 280ys0 1b07w0 27tk40 1b07w0 28jhg0 1a8fw0 260go40 17el80 2awo40
 17v980 2awqw0 17tk40 2b07w0 17tk40 2ayd80 17tk40 2ayd80 17tk40 2ayd80 17tk40 2b07w0 17tk40 2ayd80
 17tk40 2ayd80 17ves0 2awik0 17ves0 2ayd80 17ves0 2awik0 17ves0 2awik0 17ves0 2awik0 17ves0 2ayd80
 17ves0 2awik0 17ves0 2awik0 17ves0 2awik0 17ves0 2ayd80 17ves0 2awik0 17ves0 2awik0 17ves0 2awik0
 17ves0 2ayd80 17ves0 2awik0 17ves0 2f9x80 13i040 2eluk0 1462s0 2ayd80 17ves0 2awik0 17ves0 2awik0
 17ves0 2awik0 17ves0 2ayd80 17ves0 2b5rw0 17m5g0 2awik0 17ves0 2awik0 17ves0 2ayd80 17ves0 2awik0
 17ves0 2awik0 17ves0 2aqvs0 17x3w0 2asys0 17x3w0 2asys0 17x3w0 2asys0 17x3w0 2b5xg0 17x3w0 2asys0
 17x3w0 2asys0 17x3w0 2asys0 17x3w0 2asys0 17x3w0 2b5xg0 17x3w0 2asys0 17x3w0 2asys0 17k580 2b5xg0
 16u7w0 2bvus0 16h980 2c8tg0 164ak0 2cyqs0 15anw0 21jms0 112t80 21w22s0 125p80 21sw40 12vmk0
 24hbhg0
Africa/Casablanca <+00>0<+01>,0/0,J365/25 -1820:LMT,0:+00,3600*+01,3600:+01 1-tblt9g 2di7nxg
 13huk0 251k40 12znuk0 22dp9g0 1776k0 28nt2s0 1657w0 23ifxg0 13jp80 2va040 14qak0 2e1ms0 17pp80
 2cnms0 13afw0 32xi840 1xqqk0 2bp56s0 14qak0 2e1ms0 145x80 2d2g40 151ek0 2c8tg0 164ak0 2e1sc0
 147uo0 21leo0 123xc0 2asw00 13lmo0 21qyo0 140g00 27x6o0 14mo00 21stc0 14deo0 27x6o0 13ylc0 21stc0
 151hc0 27x6o0 13lmo0 21stc0 15reo0 27k800 12vpc0 225s00 164dc0 27k800 12iqo0 21stc0 1gkao0 21stc0
 1g7c00 225s00 1g7c00 21stc0 1g7c00 225s00 1g7c00 21stc0 1gkao0 21stc0 1g7c00 225s00 1g7c00 21stc0
 1gkao0 21stc0 1g7c00 225s00 1g7c00 21stc0 1g7c00 225s00 1g7c00 21stc0 1gkao0 21stc0 1g7c00 225s00
 1g7c00 21stc0 1g7c00 225s00 1g7c00 225s00 1g7c00 21stc0 1g7c00 225s00 1g7c00 21stc0 1gkao0 21stc0
 1g7c00 225s00 1g7c00 21stc0 1g7c00 225s00 1g7c00 225s00 1g7c00 21stc0 1g7c00 225s00 1g7c00 21stc0
 1gkao0 21stc0 1g7c00 225s00 1g7c00 21stc0 1g7c00 225s00 1g7c00 225s00 1g7c00 21stc0 1g7c00 225s00
 1g7c00 21stc0 1gkao0 21stc0 1g7c00 225s00 1g7c00 21stc0 1g7c00 225s00 1g7c00 225s00 1g7c00 21stc0
 1g7c00 225s00 1g7c00 21stc0 1gkao0 21stc0 1g7c00 225s00 1g7c00 21stc0 1g7c00 225s00 1g7c00 225s00
 1g7c00 21stc0 1g7c00 225s00 1g7c00 21stc0 1gkao0 21stc0 1g7c00 225s00 1g7c00 21stc0 1g7c00 225s00
 1g7c00 225s00 1g7c00 21stc0 1g7c00 225s00 1g7c00 21stc0 1gkao0 21stc0 1g7c00 225s00 1g7c00 21stc0
 1g7c00 225s00 1g7c00 21stc0 1gkao0 21stc0 1g7c00 225s00 1g7c00 21stc0 1gkao0 21stc0 1g7c00 225s00
Africa/Ceuta CET-1CEST,M3.5.0,M10.5.0/3 -1276:LMT,0:WET,3600*WEST,3600:CET,7200*CEST 1-100edc0
 291vek0 17x3w0 22vt440 18sqs0 2ssyk0 18n6s0 29px80 1905g0 2a2yo0 1902o0 2k69dc0 1657w0 23ifxg0
 13jp80 2va040 14qak0 2e1ms0 17pp80 2cnms0 13afw0 32xi840 4129us0 39d1c0 49d1c0 39d1c0 49d1c0
 39d1c0 49d1c0 39d1c0 49d1c0 39q000 49d1c0 39d1c0 49d1c0 39d1c0 49d1c0 39d1c0 49d1c0 39d1c0 49d1c0
 39d1c0 49q000
Africa/Conakry GMT0 -3292:LMT,0:GMT,-3600:-01 1-u9resk 2bk944k 1dhlk40
Africa/Dakar GMT0 -4184:LMT,-3600:-01,0:GMT 1-u9re3s 2fcoa7s
Africa/Dar_es_Salaam EAT-3 9428:LMT,10800:EAT,9900:+0245 1-kcrtxw 28ve49w 16sagp0
Africa/Djibouti EAT-3 10356:LMT,10800:EAT 1-uj8fzo
Africa/Douala WAT-1 2328:LMT,3600:WAT 1-u9rj4o
Africa/El_Aaiun <+00>0<+01>,0/0,J365/25 -3168:LMT,-3600:-01,0:+00,3600*+01 1-isdxk0 2m2g0c0 3vek0
 24qak0 3e1ms0 27pp80 3cnms0 23afw0 3fke5g0 24qak0 3e1ms0 245x80 3d2g40 251ek0 3c8tg0 264ak0
 3e1sc0 247uo0 31leo0 223xc0 3asw00 23lmo0 31qyo0 240g00 37x6o0 24mo00 31stc0 24deo0 37x6o0 23ylc0
 31stc0 251hc0 37x6o0 23lmo0 31stc0 25reo0 37k800 22vpc0 325s00 264dc0 37k800 22iqo0 31stc0 2gkao0
 31stc0 2g7c00 325s00 2g7c00 31stc0 2g7c00 325s00 2g7c00 31stc0 2gkao0 31stc0 2g7c00 325s00 2g7c00
 31stc0 2gkao0 31stc0 2g7c00 325s00 2g7c00 31stc0 2g7c00 325s00 2g7c00 31stc0 2gkao0 31stc0 2g7c00
 325s00 2g7c00 31stc0 2g7c00 325s00 2g7c00 325s00 2g7c00 31stc0 2g7c00 325s00 2g7c00 31stc0 2gkao0
 31stc0 2g7c00 325s00 2g7c00 31stc0 2g7c00 325s00 2g7c00 325s00 2g7c00 31stc0 2g7c00 325s00 2g7c00
 31stc0 2gkao0 31stc0 2g7c00 325s00 2g7c00 31stc0 2g7c00 325s00 2g7c00 325s00 2g7c00 31stc0 2g7c00
 325s00 2g7c00 31stc0 2gkao0 31stc0 2g7c00 325s00 2g7c00 31stc0 2g7c00 325s00 2g7c00 325s00 2g7c00
 31stc0 2g7c00 325s00 2g7c00 31stc0 2gkao0 31stc0 2g7c00 325s00 2g7c00 31stc0 2g7c00 325s00 2g7c00
 325s00 2g7c00 31stc0 2g7c00 325s00 2g7c00 31stc0 2gkao0 31stc0 2g7c00 325s00 2g7c00 31stc0 2g7c00
 325s00 2g7c00 325s00 2g7c00 31stc0 2g7c00 325s00 2g7c00 31stc0 2gkao0 31stc0 2g7c00 325s00 2g7c00
 31stc0 2g7c00 325s00 2g7c00 31stc0 2gkao0 31stc0 2g7c00 325s00 2g7c00 31stc0 2gkao0 31stc0 2g7c00
 325s00
Africa/Freetown GMT0 -3180:LMT,-3180:FMT,-3600:-01,-2400*-0040,0:GMT 1-19xcavo 2gfpuo0 3a4v6zo
 2681qo 37vcxc 2awkeo 37vcxc 2awkeo 37vcxc 2ayf2o 37vcxc 2awkeo 37vcxc 2awkeo 37vcxc 2e1j2o 34qe9c
 27dqo 416dy9c
Africa/Gaborone CAT-2 6220:LMT,5400:SAST,7200:CAT,10800*CAST 1-18cyvgs 29h5hys 3l5xqu0 29cyk0
Africa/Harare CAT-2 7452:LMT,7200:CAT 1-yvtf30
Africa/Johannesburg SAST-2 6720:LMT,5400:SAST,7200:SAST,10800*SAST 1-14nj6io 25rpt0o 3kn7o60
 29cyk0 39d440 29cyk0
Africa/Juba CAT-2 7588:LMT,7200:CAT,10800*CAST,10800:EAT 1-kcrsis 2kixuys 18l6k0 2a4w40 18n180
 2a6qs0 18n180 2a31g0 18ovw0 2a16s0 18qqk0 29zc40 18sl80 29xhg0 18wak0 29ts40 18y580 2a4w40 18n180
 2a31g0 18ovw0 2a16s0 18sl80 29xhg0 18ufw0 29vms0 18wak0 29ts40 18y580 2a4w40 18ovw0 2a16s0 18qqk0
 37frw40 1azg180
Africa/Kampala EAT-3 7780:LMT,10800:EAT,9000:+0230,9900:+0245 1-lnse04 2s8lo4 39e6420 14p4vb0
Africa/Khartoum CAT-2 7808:LMT,7200:CAT,10800*CAST,10800:EAT 1-kcrsow 2kixv4w 18l6k0 2a4w40 18n180
 2a6qs0 18n180 2a31g0 18ovw0 2a16s0 18qqk0 29zc40 18sl80 29xhg0 18wak0 29ts40 18y580 2a4w40 18n180
 2a31g0 18ovw0 2a16s0 18sl80 29xhg0 18ufw0 29vms0 18wak0 29ts40 18y580 2a4w40 18ovw0 2a16s0 18qqk0
 37frw40 19ac180
Africa/Kigali CAT-2 7216:LMT,7200:CAT 1-i1ulkg
Africa/Kinshasa WAT-1 3672:LMT,3600:WAT 1-11ngdi0
Africa/Lagos WAT-1 815:LMT,0:GMT,1800:+0030,3600:WAT 1-xnxnan 01kdnan 22ve7dd 32yfgkn
Africa/Libreville WAT-1 2268:LMT,3600:WAT 1-u9rj30
Africa/Lome GMT0 292:LMT,0:GMT 1-146nmw4
Africa/Luanda WAT-1 3176:LMT,3124:LMT,3600:WAT 1-14phh48 2afpx08
Africa/Lubumbashi CAT-2 6592:LMT,3600:WAT,7200:CAT 1-11ngfr4 2bpwyb4
Africa/Lusaka CAT-2 6788:LMT,7200:CAT 1-yvtekk
Africa/Malabo WAT-1 2108:LMT,0:GMT,3600:WAT 1-u9riyk 2r44sak
Africa/Maputo CAT-2 7818:LMT,7200:CAT 1-vu3fd6
Africa/Maseru SAST-2 6600:LMT,7200:SAST,10800*SAST 1-yvtefc 2l5xrrc 19cyk0
Africa/Mbabane SAST-2 7464:LMT,7200:SAST 1-yvtf3c
Africa/Mogadishu EAT-3 10888:LMT,10800:EAT,9000:+0230 1-13r0weg 2je91eg 1dkj2q0
Africa/Monrovia GMT0 -2588:LMT,-2588:MMT,-2670:MMT,0:GMT 1-19xcbc4 2je5c00 3rl202a
Africa/Nairobi EAT-3 8836:LMT,9000:+0230,10800:EAT,9900:+0245 1-w6p5hg 2aiwqjg 1sg1a0 33nbte0
 22wu1z0
Africa/Ndjamena WAT-1 3612:LMT,3600:WAT,7200*WAST 1-u9rk4c 2zdk5cc 17iak0
Africa/Niamey WAT-1 508:LMT,-3600:-01,0:GMT,3600:WAT 1-u9rhq4 2bk99u4 3dhlek0
Africa/Nouakchott GMT0 -3828:LMT,0:GMT,-3600:-01 1-u9redo 2bk93po 1dyodg0
Africa/Ouagadougou GMT0 -364:LMT,0:GMT 1-u9rh1w
Africa/Porto-Novo WAT-1 628:LMT,0:GMT,3600:WAT 1-u9rhtg 2bk975g
Africa/Sao_Tome GMT0 1616:LMT,-2205:LMT,0:GMT,3600:WAT 1-18vsjww 2em12kw 31jbm840 2irxc0
Africa/Tripoli EET-2 3164:LMT,3600:CET,7200*CEST,7200:EET 1-q3gfrw 2gl6ajw 1422c0 2xado0 14bbo0
 2wrpg0 14s580 31kdpg0 1c05bw0 24mqs0 19et80 29d440 19et80 29eys0 19et80 29mdg0 195jw0 29io40
 19cyk0 299es0 19et80 29eys0 19et80 29d440 19et80 3b2840 13cf3w0 29kis0 39et80 17vqyw0 275eo0
 3asw00
Africa/Tunis CET-1 2444:LMT,561:PMT,3600:CET,7200*CEST 1-1a9dr7w 2fke44b 3enxevl 2b5uo0 353c00
 2u8w00 37x9g0 2c8w80 37k800 2z3w0 3ew40 28bx80 39d440 29nx00 3925o0 28l100 3gi3440 27k800 3b9k00
 27vc00 351mw00 25ytc0 39d1c0 29d1c0 3b9k00 27thc0 37m0tc0 27tk40 393us0 2b5uo0 37k800 2b5uo0
 37x6o0 2asw00
Africa/Windhoek CAT-2 4104:LMT,5400:+0130,7200:SAST,10800*SAST,7200:CAT,3600:WAT,7200*CAT
 1-14nj4i0 25rpr00 3kn7o60 29cyk0 4oj2nw0 5235k00 68lho0 5ast80 67x9g0 5b5rw0 67kas0 5b5rw0 67x9g0
 5ast80 67x9g0 5ast80 67x9g0 5ast80 67x9g0 5ast80 67x9g0 5b5rw0 67kas0 5b5rw0 67x9g0 5ast80 67x9g0
 5ast80 67x9g0 5ast80 67x9g0 5ast80 67x9g0 5b5rw0 67x9g0 5ast80 67x9g0 5ast80 67x9g0 5ast80 67x9g0
 5ast80 67x9g0 5b5rw0 67kas0 5b5rw0 67x9g0 5ast80 67x9g0 5ast80 67x9g0 5ast80 67x9g0 42m7o0
America/Adak HST10HDT,M3.2.0,M11.1.0
 44002:LMT,-42398:LMT,-39600:NST,-36000*NWT,-36000*NPT,-39600:BST,-36000*BDT,-36000:AHST,-36000:HST,-32400*HDT
 1-1hc7qjz 2h4z1xp 3ln70qa 41tyug0 22e6s0 5b7yik0 612y080 59cyk0 69d440 59cyk0 69d440 59px80
 69d440 59cyk0 69d440 59cyk0 63lpg0 5f4d80 664g40 5clmk0 69d440 59px80 6905g0 59px80 69d440 59cyk0
 69d440 59cyk0 69d440 59cyk0 69d440 59cyk0 69d440 59px80 6905g0 79px80 81l940 97rs80 89cyk0 99d440
 89cyk0 99d440 89cyk0 98a840 8afuk0 98a840 8ast80 97x9g0 8ast80 97x9g0 8ast80 98a840 8afuk0 98a840
 8afuk0 98a840 8ast80 97x9g0 8ast80 97x9g0 8ast80 98a840 8afuk0 98a840 8afuk0 98a840 8afuk0 98a840
 8ast80 97x9g0 8ast80 97x9g0 8ast80 98a840 8afuk0 98a840 8afuk0 98a840 8ast80 97x9g0 8ast80 97x9g0
 8ast80 96udg0
America/Anchorage AKST9AKDT,M3.2.0,M11.1.0
 50424:LMT,-35976:LMT,-36000:AST,-32400*AWT,-32400*APT,-36000:AHST,-32400*AHDT,-32400:YST,-32400:AKST,-28800*AKDT
 1-1hc7qjz 2h4ywzb 3ln72wo 41tyx80 22e400 5b7yik0 612y080 59cyk0 69d440 59cyk0 69d440 59px80
 69d440 59cyk0 69d440 59cyk0 63lpg0 5f4d80 664g40 5clmk0 69d440 59px80 6905g0 59px80 69d440 59cyk0
 69d440 59cyk0 69d440 59cyk0 69d440 59cyk0 69d440 59px80 6905g0 79px80 81l940 97rs80 89cyk0 99d440
 89cyk0 99d440 89cyk0 98a840 8afuk0 98a840 8ast80 97x9g0 8ast80 97x9g0 8ast80 98a840 8afuk0 98a840
 8afuk0 98a840 8ast80 97x9g0 8ast80 97x9g0 8ast80 98a840 8afuk0 98a840 8afuk0 98a840 8afuk0 98a840
 8ast80 97x9g0 8ast80 97x9g0 8ast80 98a840 8afuk0 98a840 8afuk0 98a840 8ast80 97x9g0 8ast80 97x9g0
 8ast80 96udg0
America/Anguilla AST4 -15136:LMT,-14400:AST 1-u6m6zk
America/Antigua AST4 -14832:LMT,-18000:EST,-14400:AST 1-u6m780 2k9mqg0
America/Araguaina <-03>3 -11568:LMT,-10800:-03,-7200*-02 1-t85j2o 299k8mo 19a9c0 29io40 199980
 28p65g0 16zuo0 2bs2o0 167zw0 2cjxg0 169uk0 2cjxg0 14ml80 25mf440 149mk0 2haas0 1316k0 2cls40
 14ml80 2cls40 166580 2cls40 167zw0 2981s40 16u7w0 2biw40 15rbw0 2d0lg0 15ed80 2cyqs0 15ed80
 2dbpg0 164ak0 22yl440 164ak0 2c8tg0 16u7w0 2bxpg0 17iak0 2biw40 16u7w0 2biw40 17k580 2biw40
 16u7w0 2c8tg0 16h980 2dbpg0 15ed80 251udg0 164ak0 1d07nfj
America/Argentina/Buenos_Aires <-03>3
 -14028:LMT,-15408:CMT,-14400:-04,-10800*-03,-10800:-03,-7200*-02 1-138aaic 2db2bqc 35iv8k0 267zw0
 3a4w40 273h80 3cls40 266580 3cls40 266580 3cls40 266580 3cls40 267zw0 3cls40 266580 3cls40 266580
 3cls40 266580 3cls40 267zw0 36a040 2hy7w0 36a040 2xovw0 33uys0 218nbw0 3b0dg0 28ve2k0 33uys0
 23yik0 3bqas0 271mk0 3bqas0 271mk0 3bqas0 28ovw0 39d440 29px80 39d440 29cyk0 49d440 528t6k0
 451ek0 57m2qs0 44tzw0 5biw40 4776k0 5bvus0 46u7w0 5bvus0 46u7w0 5bvus0 4776k0 33fidg0 47thc0
 5430lc0 43yik0 5b5xg0 47k580 4f2123j
America/Argentina/Catamarca <-03>3
 -15788:LMT,-15408:CMT,-14400:-04,-10800*-03,-10800:-03,-7200*-02 1-138a95g 2db2adg 35iv8k0 267zw0
 3a4w40 273h80 3cls40 266580 3cls40 266580 3cls40 266580 3cls40 267zw0 3cls40 266580 3cls40 266580
 3cls40 266580 3cls40 267zw0 36a040 2hy7w0 36a040 2xovw0 33uys0 218nbw0 3b0dg0 28ve2k0 33uys0
 23yik0 3bqas0 271mk0 3bqas0 271mk0 3bqas0 28ovw0 39d440 29px80 39d440 29cyk0 49d440 528t6k0
 451ek0 57m2qs0 44tzw0 5biw40 4776k0 5bvus0 26u7w0 5bvxk0 46u540 5bvus0 4776k0 33fidg0 47thc0
 227s800 4z9g0 51u93w0 43yik0 4fkr4rj
America/Argentina/Cordoba <-03>3 -15408:LMT,-15408:CMT,-14400:-04,-10800*-03,-10800:-03,-7200*-02
 1-138a9g0 2db2ao0 35iv8k0 267zw0 3a4w40 273h80 3cls40 266580 3cls40 266580 3cls40 266580 3cls40
 267zw0 3cls40 266580 3cls40 266580 3cls40 266580 3cls40 267zw0 36a040 2hy7w0 36a040 2xovw0 33uys0
 218nbw0 3b0dg0 28ve2k0 33uys0 23yik0 3bqas0 271mk0 3bqas0 271mk0 3bqas0 28ovw0 39d440 29px80
 39d440 29cyk0 49d440 528t6k0 451ek0 57m2qs0 44tzw0 5biw40 4776k0 5bvus0 26u7w0 5bvxk0 46u540
 5bvus0 4776k0 33fidg0 47thc0 5430lc0 43yik0 5b5xg0 47k580 4f2123j
America/Argentina/Jujuy <-03>3 -15672:LMT,-15408:CMT,-14400:-04,-10800*-03,-10800:-03,-7200*-02
 1-138a98o 2db2ago 35iv8k0 267zw0 3a4w40 273h80 3cls40 266580 3cls40 266580 3cls40 266580 3cls40
 267zw0 3cls40 266580 3cls40 266580 3cls40 266580 3cls40 267zw0 36a040 2hy7w0 36a040 2xovw0 33uys0
 218nbw0 3b0dg0 28ve2k0 33uys0 23yik0 3bqas0 271mk0 3bqas0 271mk0 3bqas0 28ovw0 39d440 29px80
 39d440 29cyk0 49d440 528t6k0 451ek0 57m2qs0 44tzw0 5biw40 2776k0 3c8w80 2776k0 5ag040 47k2g0
 5bvus0 4776k0 33fidg0 47thc0 5430lc0 43yik0 4fkr4rj
America/Argentina/La_Rioja <-03>3 -16044:LMT,-15408:CMT,-14400:-04,-10800*-03,-10800:-03,-7200*-02
 1-138a8yc 2db2a6c 35iv8k0 267zw0 3a4w40 273h80 3cls40 266580 3cls40 266580 3cls40 266580 3cls40
 267zw0 3cls40 266580 3cls40 266580 3cls40 266580 3cls40 267zw0 36a040 2hy7w0 36a040 2xovw0 33uys0
 218nbw0 3b0dg0 28ve2k0 33uys0 23yik0 3bqas0 271mk0 3bqas0 271mk0 3bqas0 28ovw0 39d440 29px80
 39d440 29cyk0 49d440 528t6k0 451ek0 57m2qs0 44tzw0 5biw40 4776k0 5bvus0 26qik0 43g880 58jbw0
 46u7w0 5bvus0 4776k0 33fidg0 47thc0 227s800 4z9g0 51u93w0 43yik0 4fkr4rj
America/Argentina/Mendoza <-03>3 -16516:LMT,-15408:CMT,-14400:-04,-10800*-03,-10800:-03,-7200*-02
 1-138a8l8 2db29t8 35iv8k0 267zw0 3a4w40 273h80 3cls40 266580 3cls40 266580 3cls40 266580 3cls40
 267zw0 3cls40 266580 3cls40 266580 3cls40 266580 3cls40 267zw0 36a040 2hy7w0 36a040 2xovw0 33uys0
 218nbw0 3b0dg0 28ve2k0 33uys0 23yik0 3bqas0 271mk0 3bqas0 271mk0 3bqas0 28ovw0 39d440 29px80
 39d440 29cyk0 49d440 528t6k0 451ek0 57m2qs0 44tzw0 5biw40 2776k0 3bktk0 271mk0 3bqas0 273h80
 5bvus0 4773s0 33fidg0 47thc0 227bk00 46hes0 51p7mk0 43yik0 4fkr4rj
America/Argentina/Rio_Gallegos <-03>3
 -16612:LMT,-15408:CMT,-14400:-04,-10800*-03,-10800:-03,-7200*-02 1-138a8ik 2db29qk 35iv8k0 267zw0
 3a4w40 273h80 3cls40 266580 3cls40 266580 3cls40 266580 3cls40 267zw0 3cls40 266580 3cls40 266580
 3cls40 266580 3cls40 267zw0 36a040 2hy7w0 36a040 2xovw0 33uys0 218nbw0 3b0dg0 28ve2k0 33uys0
 23yik0 3bqas0 271mk0 3bqas0 271mk0 3bqas0 28ovw0 39d440 29px80 39d440 29cyk0 49d440 528t6k0
 451ek0 57m2qs0 44tzw0 5biw40 4776k0 5bvus0 46u7w0 5bvus0 46u7w0 5bvus0 4776k0 33fidg0 47thc0
 227s800 4z9g0 51u93w0 43yik0 4fkr4rj
America/Argentina/Salta <-03>3 -15700:LMT,-15408:CMT,-14400:-04,-10800*-03,-10800:-03,-7200*-02
 1-138a97w 2db2afw 35iv8k0 267zw0 3a4w40 273h80 3cls40 266580 3cls40 266580 3cls40 266580 3cls40
 267zw0 3cls40 266580 3cls40 266580 3cls40 266580 3cls40 267zw0 36a040 2hy7w0 36a040 2xovw0 33uys0
 218nbw0 3b0dg0 28ve2k0 33uys0 23yik0 3bqas0 271mk0 3bqas0 271mk0 3bqas0 28ovw0 39d440 29px80
 39d440 29cyk0 49d440 528t6k0 451ek0 57m2qs0 44tzw0 5biw40 4776k0 5bvus0 26u7w0 5bvxk0 46u540
 5bvus0 4776k0 33fidg0 47thc0 5430lc0 43yik0 4fkr4rj
America/Argentina/San_Juan <-03>3 -16444:LMT,-15408:CMT,-14400:-04,-10800*-03,-10800:-03,-7200*-02
 1-138a8n8 2db29v8 35iv8k0 267zw0 3a4w40 273h80 3cls40 266580 3cls40 266580 3cls40 266580 3cls40
 267zw0 3cls40 266580 3cls40 266580 3cls40 266580 3cls40 267zw0 36a040 2hy7w0 36a040 2xovw0 33uys0
 218nbw0 3b0dg0 28ve2k0 33uys0 23yik0 3bqas0 271mk0 3bqas0 271mk0 3bqas0 28ovw0 39d440 29px80
 39d440 29cyk0 49d440 528t6k0 451ek0 57m2qs0 44tzw0 5biw40 4776k0 5bvus0 26qik0 43g880 58jbw0
 46u7w0 5bvus0 4776k0 33fidg0 47thc0 227qdc0 42txg0 51sgak0 43yik0 4fkr4rj
America/Argentina/San_Luis <-03>3 -15924:LMT,-15408:CMT,-14400:-04,-10800*-03,-10800:-03,-7200*-02
 1-138a91o 2db2a9o 35iv8k0 267zw0 3a4w40 273h80 3cls40 266580 3cls40 266580 3cls40 266580 3cls40
 267zw0 3cls40 266580 3cls40 266580 3cls40 266580 3cls40 267zw0 36a040 2hy7w0 36a040 2xovw0 33uys0
 218nbw0 3b0dg0 28ve2k0 33uys0 23yik0 3bqas0 271mk0 3bqas0 271mk0 3bqas0 28ovw0 39d440 29px80
 39d440 29cyk0 49d440 528t6k0 451ek0 57m2qs0 44tzw0 5biw40 27pp80 3b2aw0 271mk0 44qg40 34conw0
 47thc0 227qdc0 42txg0 51sgak0 314nw0 22gys0 3b5xg0 27k580 4b5xg0 4er80jj
America/Argentina/Tucuman <-03>3 -15652:LMT,-15408:CMT,-14400:-04,-10800*-03,-10800:-03,-7200*-02
 1-138a998 2db2ah8 35iv8k0 267zw0 3a4w40 273h80 3cls40 266580 3cls40 266580 3cls40 266580 3cls40
 267zw0 3cls40 266580 3cls40 266580 3cls40 266580 3cls40 267zw0 36a040 2hy7w0 36a040 2xovw0 33uys0
 218nbw0 3b0dg0 28ve2k0 33uys0 23yik0 3bqas0 271mk0 3bqas0 271mk0 3bqas0 28ovw0 39d440 29px80
 39d440 29cyk0 49d440 528t6k0 451ek0 57m2qs0 44tzw0 5biw40 4776k0 5bvus0 26u7w0 5bvxk0 46u540
 5bvus0 4776k0 33fidg0 47thc0 227s800 4mas0 51um2k0 43yik0 5b5xg0 47k580 4f2123j
America/Argentina/Ushuaia <-03>3 -16392:LMT,-15408:CMT,-14400:-04,-10800*-03,-10800:-03,-7200*-02
 1-138a8oo 2db29wo 35iv8k0 267zw0 3a4w40 273h80 3cls40 266580 3cls40 266580 3cls40 266580 3cls40
 267zw0 3cls40 266580 3cls40 266580 3cls40 266580 3cls40 267zw0 36a040 2hy7w0 36a040 2xovw0 33uys0
 218nbw0 3b0dg0 28ve2k0 33uys0 23yik0 3bqas0 271mk0 3bqas0 271mk0 3bqas0 28ovw0 39d440 29px80
 39d440 29cyk0 49d440 528t6k0 451ek0 57m2qs0 44tzw0 5biw40 4776k0 5bvus0 46u7w0 5bvus0 46u7w0
 5bvus0 4776k0 33fidg0 47thc0 227oio0 412ys0 51u93w0 43yik0 4fkr4rj
America/Aruba AST4 -16824:LMT,-16200:-0430,-14400:AST 1-u7lcco 2rlo7io
America/Asuncion <-03>3 -13840:LMT,-13840:AMT,-14400:-04,-10800:-03,-10800*-03 1-15r0ynk 2lsruo0
 3ldwofk 2s4vw0 4s6w40 27tek0 4b0dg0 27rjw0 4b0dg0 27rjw0 4b0dg0 29cyk0 49eys0 29et80 49eys0
 29cyk0 49eys0 29cyk0 49eys0 29cyk0 49eys0 29et80 49eys0 29cyk0 49eys0 29cyk0 49eys0 29cyk0 49eys0
 29et80 49eys0 29cyk0 4ahus0 28a2k0 49eys0 29cyk0 49o840 27k580 4b7s40 293p80 49gtg0 27nuk0 4b42s0
 27lzw0 4b5xg0 27tek0 4b9ms0 2776k0 4biw40 27k580 4b5xg0 27x3w0 4asys0 27x3w0 4asys0 27x3w0 4b5xg0
 29cyk0 47kas0 2b5rw0 47x9g0 2ast80 4a31g0 27k580 4b5xg0 27k580 4b5xg0 27k580 4biw40 2776k0 4biw40
 2776k0 4biw40 28zzw0 4905g0 29px80 4905g0 29px80 49d440 28n180 4a31g0 28n180 4a31g0 28n180 4a31g0
 28zzw0 49q2s0 28zzw0 49q2s0 28zzw0 4a31g0 28n180 4a31g0 28n180 4a31g0 28zzw0 49q2s0 28zzw0 49q2s0
 28zzw0 49q2s0 28zzw0 4a31g0 3gl80 36x6dzj
America/Atikokan EST5 -21988:LMT,-21600:CST,-18000*CDT,-18000*CWT,-18000*CPT,-18000:EST 1-1353b18
 2c5efx8 1a2vw0 2bfxjw0 3pmdk0 41tz8c0 52dsw0
America/Bahia <-03>3 -9244:LMT,-10800:-03,-7200*-02 1-t85kv8 299kaf8 19a9c0 29io40 199980 28p65g0
 16zuo0 2bs2o0 167zw0 2cjxg0 169uk0 2cjxg0 14ml80 25mf440 149mk0 2haas0 1316k0 2cls40 14ml80
 2cls40 166580 2cls40 167zw0 2981s40 16u7w0 2biw40 15rbw0 2d0lg0 15ed80 2cyqs0 15ed80 2dbpg0
 164ak0 2cyqs0 164ak0 2cls40 15rbw0 2dbpg0 151ek0 2dbpg0 16h980 2c8tg0 16h980 2c8tg0 164ak0 2c8tg0
 16u7w0 2bxpg0 17iak0 2biw40 16u7w0 2biw40 17k580 2biw40 16u7w0 2c8tg0 16h980 2dbpg0 15ed80
 24irc40 16u7w0 1dikrfj
America/Bahia_Banderas CST6 -25260:LMT,-25200:MST,-21600:CST,-21600*MDT,-18000*CDT 1-p1u4k0
 22u5s00 11si580 38jhg0 17x3w0 29eys0 1591h80 3s5qoc0 1afuk0 38a840 1afuk0 38a840 1afuk0 38a840
 1ast80 37x9g0 1ast80 39q2s0 17k580 39q2s0 1afuk0 38a840 1afuk0 38a840 1ast80 37x9g0 1ast80 37x9g0
 1ast80 37x9g0 1ast80 38a840 1afuk0 38a840 1afuk0 48a840 2asqg0 47x9g0 2ast80 47x9g0 2ast80 48a840
 2afuk0 48a840 2afuk0 48a840 2afuk0 48a840 2ast80 47x9g0 2ast80 47x9g0 2ast80 48a840 2afuk0 48a840
 2afuk0 48a840 2ast80 47x9g0 2ast80
America/Barbados AST4 -14309:LMT,-14400:AST,-10800*ADT,-12600*-0330 1-ug8iaj 2fzq06j 16w840 2cjrw0
 16hes0 3b7mk0 17ves0 2h3dpc0 15rbw0 2a31g0 18n180 2a31g0 18n180 2ag040 184ik0
America/Belem <-03>3 -11636:LMT,-10800:-03,-7200*-02 1-t85j0s 299k8ks 19a9c0 29io40 199980 28p65g0
 16zuo0 2bs2o0 167zw0 2cjxg0 169uk0 2cjxg0 14ml80 25mf440 149mk0 2haas0 1316k0 2cls40 14ml80
 2cls40 166580 2cls40 167zw0 2981s40 16u7w0 2biw40 15rbw0 2d0lg0 15ed80 1q2ha3j
America/Belize CST6 -21168:LMT,-21600:CST,-19800*-0530,-18000*CWT,-18000*CPT,-18000*CDT 1-u52ic0
 23edkc0 16ham0 2c8s20 16u9a0 2bvte0 16u9a0 2bvte0 16u9a0 2c8s20 16ham0 2c8s20 16ham0 2c8s20
 16u9a0 2bvte0 16u9a0 2bvte0 16u9a0 2bvte0 16u9a0 2c8s20 16ham0 2c8s20 16ham0 2c8s20 16u9a0 2bvte0
 16u9a0 2bvte0 16u9a0 2c8s20 16ham0 2c8s20 16ham0 2c8s20 16ham0 2c8s20 16u9a0 2bvte0 16u9a0 2bvte0
 16u9a0 2c8s20 16ham0 2c8s20 16ham0 2c8s20 16u9a0 36uc20 41mtz80 16c8o0 2xulg0 16u9a0 2bvte0
 16u9a0 2bvte0 16u9a0 2c8s20 16ham0 2c8s20 16ham0 2c8s20 16u9a0 2bvte0 16u9a0 2bvte0 16u9a0 2bvte0
 16u9a0 2c8s20 16ham0 2c8s20 16ham0 2c8s20 16u9a0 2bvte0 16u9a0 2bvte0 16u9a0 2c8s20 16ham0 2c8s20
 16ham0 2c8s20 16ham0 2c8s20 16u9a0 2bvte0 16u9a0 2bvte0 16u9a0 2c8s20 16ham0 5319de0 13e580
 54mcys0 12vmk0
America/Blanc-Sablon AST4 -13708:LMT,-14400:AST,-10800*ADT,-10800*AWT,-10800*APT 1-18vs838 2hw37f8
 1a2vw0 3c5jxg0 41tzdw0 12dnc0
America/Boa_Vista <-04>4 -14560:LMT,-14400:-04,-10800*-03 1-t85grk 299k93k 19a9c0 29io40 199980
 28p65g0 16zuo0 2bs2o0 167zw0 2cjxg0 169uk0 2cjxg0 14ml80 25mf440 149mk0 2haas0 1316k0 2cls40
 14ml80 2cls40 166580 2cls40 167zw0 2981s40 16u7w0 2biw40 15rbw0 2d0lg0 15ed80 262xk40 17k580
 2biw40 1cvw0 1jg3pzj
America/Bogota <-05>5 -17776:LMT,-17776:BMT,-18000:-05,-14400*-04 1-18s2sy8 2g0p400 314f1hi8
 2eefw0 2nghsjj
America/Boise MST7MDT,M3.2.0,M11.1.0
 -27889:LMT,-28800:PST,-25200*PDT,-25200:MST,-21600*MWT,-21600*MPT,-21600*MDT 1-18y0gg0 2hxltk0
 1ast80 27x9g0 1ast80 31um840 49s7jw0 51tz5k0 32dvo0 6b9gdg0 39cyk0 69d440 39cyk0 69d440 39cyk0
 69d440 39cyk0 69d440 39px80 69d440 39cyk0 69d440 39cyk0 651k40 3doik0 664g40 3clmk0 69d440 39px80
 6905g0 39px80 69d440 39cyk0 69d440 39cyk0 69d440 39cyk0 69d440 39cyk0 69d440 39px80 6905g0 39px80
 69d440 39cyk0 69d440 39cyk0 69d440 39cyk0 68a840 3afuk0 68a840 3ast80 67x9g0 3ast80 67x9g0 3ast80
 68a840 3afuk0 68a840 3afuk0 68a840 3ast80 67x9g0 3ast80 67x9g0 3ast80 68a840 3afuk0 68a840 3afuk0
 68a840 3afuk0 68a840 3ast80 67x9g0 3ast80 67x9g0 3ast80 68a840 3afuk0 68a840 3afuk0 68a840 3ast80
 67x9g0 3ast80 67x9g0 3ast80 66udg0
America/Cambridge_Bay MST7MDT,M3.2.0,M11.1.0
 0:-00,-25200:MST,-21600*MWT,-21600*MPT,-21600*MDT,-21600:CST,-18000*CDT,-18000:EST 1-q3gdc0
 2bjeec0 31tz5k0 12dvo0 4dvfpg0 19cyk0 49d440 19cyk0 49d440 19cyk0 49d440 19cyk0 49d440 19px80
 4905g0 19px80 49d440 19cyk0 49d440 19cyk0 49d440 19cyk0 49d440 19cyk0 49d440 19px80 4905g0 19px80
 49d440 19cyk0 49d440 19cyk0 49d440 19cyk0 48a840 1afuk0 48a840 1ast80 47x9g0 1ast80 47x9g0 1ast80
 48a840 1afuk0 48a840 1afuk0 48a840 1ast80 47x9g0 1ast80 47x9g0 1ast80 48a840 1afuk0 48a840 1afuk0
 48a840 1afuk0 48a840 5ast80 67x6o0 7ast80 5ct40 47kj40 1ast80 48a840 1afuk0 48a840 1afuk0 48a840
 1ast80 47x9g0 1ast80 47x9g0 1ast80 46udg0
America/Campo_Grande <-04>4 -13108:LMT,-14400:-04,-10800*-03 1-t85hvw 299ka7w 19a9c0 29io40 199980
 28p65g0 16zuo0 2bs2o0 167zw0 2cjxg0 169uk0 2cjxg0 14ml80 25mf440 149mk0 2haas0 1316k0 2cls40
 14ml80 2cls40 166580 2cls40 167zw0 2981s40 16u7w0 2biw40 15rbw0 2d0lg0 15ed80 2cyqs0 15ed80
 2dbpg0 164ak0 2cyqs0 164ak0 2cls40 15rbw0 2dbpg0 151ek0 2dbpg0 16h980 2c8tg0 16h980 2c8tg0 164ak0
 2c8tg0 16u7w0 2bxpg0 17iak0 2biw40 16u7w0 2biw40 17k580 2biw40 16u7w0 2c8tg0 16h980 2dbpg0 15ed80
 2cls40 164ak0 2dfes0 15nmk0 2c8tg0 16h980 2dbpg0 15rbw0 2bvus0 16h980 2cls40 164ak0 2cls40 16h980
 2c8tg0 16h980 2c8tg0 16u7w0 2c8tg0 164ak0 2cls40 164ak0 2cls40 16h980 2c8tg0 16h980 2c8tg0 16h980
 2c8tg0 16h980 2dbpg0 15ed80 19vi5zj
America/Cancun EST5 -20824:LMT,-21600:CST,-18000:EST,-18000*CDT,-14400*EDT 1-p1u7c0 2vb0dk0 1j8d00
 36x2wc0 1afuk0 38a840 2afuk0 48a5c0 364ak0 14bms0 38a840 1ast80 37x9g0 1ast80 39q2s0 17k580
 39q2s0 1afuk0 38a840 1afuk0 38a840 1ast80 37x9g0 1ast80 37x9g0 1ast80 37x9g0 1ast80 38a840 1afuk0
 38a840 1afuk0 38a840 1ast80 37x9g0 1ast80 37x9g0 1ast80 38a840 1afuk0 38a840 1afuk0 251k40
America/Caracas <-04>4 -16064:LMT,-16060:CMT,-16200:-0430,-14400:-04 1-15r0wxs 2bjfjzw 3rlo83w
 2meoxm0 34dps00 3bc2g7j
America/Cayenne <-03>3 -12560:LMT,-14400:-04,-10800:-03 1-uj7yb4 2tcw6r4 210ovsjj
America/Cayman EST5 -19532:LMT,-18430:KMT,-18000:EST 1-15r0u9g 2biv5te
America/Chicago CST6CDT,M3.2.0,M11.1.0
 -21036:LMT,-21600:CST,-18000*CDT,-18000:EST,-18000*CWT,-18000*CPT 1-18y0m00 2hxltk0 1ast80 27x9g0
 1ast80 2bvus0 1776k0 27kas0 1b5rw0 29d440 17k580 2b5xg0 17x3w0 2asys0 17x3w0 2asys0 17x3w0 2asys0
 17x3w0 2asys0 17x3w0 2b5xg0 17x3w0 2asys0 17x3w0 2asys0 17x3w0 2asys0 17x3w0 2asys0 17x3w0 2b5xg0
 17k580 2b5xg0 17x3w0 2asys0 17x3w0 37x9g0 1dbjw0 28a840 17x3w0 2asys0 17x3w0 2b5xg0 17k580 2b5xg0
 17x3w0 2asys0 17x3w0 46w840 51tz8c0 12dsw0 2asys0 17x3w0 2asys0 17x3w0 2asys0 17x3w0 2asys0
 17x3w0 2b5xg0 17k580 2b5xg0 17x3w0 2asys0 17x3w0 2asys0 17x3w0 2asys0 17x3w0 2asys0 19px80 29d440
 19cyk0 29d440 19cyk0 29d440 19cyk0 29d440 19cyk0 29d440 19px80 29d440 19cyk0 29d440 19cyk0 29d440
 19cyk0 29d440 19cyk0 29d440 19px80 2905g0 19px80 29d440 19cyk0 29d440 19cyk0 29d440 19cyk0 29d440
 19cyk0 29d440 19px80 29d440 19cyk0 29d440 19cyk0 23lpg0 1f4d80 264g40 1clmk0 29d440 19px80 2905g0
 19px80 29d440 19cyk0 29d440 19cyk0 29d440 19cyk0 29d440 19cyk0 29d440 19px80 2905g0 19px80 29d440
 19cyk0 29d440 19cyk0 29d440 19cyk0 28a840 1afuk0 28a840 1ast80 27x9g0 1ast80 27x9g0 1ast80 28a840
 1afuk0 28a840 1afuk0 28a840 1ast80 27x9g0 1ast80 27x9g0 1ast80 28a840 1afuk0 28a840 1afuk0 28a840
 1afuk0 28a840 1ast80 27x9g0 1ast80 27x9g0 1ast80 28a840 1afuk0 28a840 1afuk0 28a840 1ast80 27x9g0
 1ast80 27x9g0 1ast80 26udg0
America/Chihuahua CST6 -25460:LMT,-25200:MST,-21600:CST,-21600*MDT,-18000*CDT 1-p1u4k0 22u5s00
 11si580 38jhg0 17x3w0 29eys0 4xes2s0 2afuk0 48a840 2afuk0 38aaw0 1afuk0 38a840 1ast80 37x9g0
 1ast80 39q2s0 17k580 39q2s0 1afuk0 38a840 1afuk0 38a840 1ast80 37x9g0 1ast80 37x9g0 1ast80 37x9g0
 1ast80 38a840 1afuk0 38a840 1afuk0 38a840 1ast80 37x9g0 1ast80 37x9g0 1ast80 38a840 1afuk0 38a840
 1afuk0 38a840 1afuk0 38a840 1ast80 37x9g0 1ast80 37x9g0 1ast80 38a840 1afuk0 38a840 1afuk0 38a840
 1ast80 37x9g0 2ast80
America/Ciudad_Juarez MST7MDT,M3.2.0,M11.1.0
 -25556:LMT,-25200:MST,-21600:CST,-21600*MDT,-18000*CDT 1-p1u4k0 22u5s00 11si580 38jhg0 17x3w0
 29eys0 4xes2s0 2afuk0 48a840 2afuk0 38aaw0 1afuk0 38a840 1ast80 37x9g0 1ast80 39q2s0 17k580
 39q2s0 1afuk0 38a840 1afuk0 38a840 1ast80 37x9g0 1ast80 37x9g0 1ast80 37x9g0 1ast80 38a840 1afuk0
 38a840 1afuk0 377c40 1c8nw0 36hes0 1c8nw0 36hes0 1c8nw0 36hes0 1c8nw0 36hes0 1c8nw0 36hes0 1c8nw0
 36udg0 1c8nw0 36hes0 1c8nw0 36hes0 1c8nw0 36hes0 1c8nw0 36hes0 1c8nw0 36udg0 1c8nw0 36hes0 2bvp80
 11l940 3594c0
America/Costa_Rica CST6 -20173:LMT,-20173:SJMT,-21600:CST,-18000*CDT 1-15r0trn 2g74lc0 3ubtl3n
 251ek0 3doo40 251ek0 35jso40 28drw0 3acas0 22xh80
America/Coyhaique <-03>3
 -17296:LMT,-16965:SMT,-18000:-05,-14400:-04,-14400*-04,-10800*-03,-10800:-03 1-15r0vzk 2ag6l2t
 13dlssr 3157b79 1f4e0r 449hzb9 2aye0r 47ves0 2awik0 47ves0 2awik0 47ves0 2awik0 47ves0 2ayd80
 37ves0 2534ik0 3351g0 424lbw0 2b25c0 32mg00 5b73400 37k580 5c8tg0 36h980 5a31g0 37x3w0 5asys0
 37x3w0 5b5xg0 37k580 5ag040 38a2k0 5b5xg0 37k580 5b5xg0 37x3w0 5asys0 37x3w0 5asys0 37x3w0 5b5xg0
 37k580 5b5xg0 37k580 5b5xg0 37x3w0 5asys0 37x3w0 5asys0 37x3w0 5asys0 37x3w0 5b5xg0 37k580 5b5xg0
 37k580 5b5xg0 39cyk0 59d440 37x3w0 5asys0 37x3w0 5b5xg0 37k580 59q2s0 38zzw0 5b5xg0 37x3w0 5asys0
 37x3w0 5asys0 37x3w0 5asys0 37x3w0 5b5xg0 37k580 5b5xg0 38n180 5a31g0 37x3w0 5a31g0 39px80 59q2s0
 37x3w0 5b5xg0 37k580 5b5xg0 37k580 5b5xg0 37k580 5b5xg0 37x3w0 5asys0 37x3w0 5asys0 37x3w0 5b5xg0
 37k580 5b5xg0 38n180 5a31g0 37x3w0 5asys0 38zzw0 59q2s0 3ast80 55eis0 3cyl80 56hes0 3c8nw0 56udg0
 3bvp80 56udg0 3vonw0 54olg0 3e1h80 54olg0 3e1h80 54olg0 3c8nw0 57x9g0 3ast80 57x9g0 3ast80 57x9g0
 3ast80 58a840 3afuk0 57x9g0 3b5rw0 57x9g0 69xbw0 66p5hzj
America/Creston MST7 -27964:LMT,-25200:MST,-28800:PST 1-18vrx38 2h39xv8 1vbus0
America/Cuiaba <-04>4 -13460:LMT,-14400:-04,-10800*-03 1-t85hm4 299k9y4 19a9c0 29io40 199980
 28p65g0 16zuo0 2bs2o0 167zw0 2cjxg0 169uk0 2cjxg0 14ml80 25mf440 149mk0 2haas0 1316k0 2cls40
 14ml80 2cls40 166580 2cls40 167zw0 2981s40 16u7w0 2biw40 15rbw0 2d0lg0 15ed80 2cyqs0 15ed80
 2dbpg0 164ak0 2cyqs0 164ak0 2cls40 15rbw0 2dbpg0 151ek0 2dbpg0 16h980 2c8tg0 16h980 2c8tg0 164ak0
 2c8tg0 16u7w0 2bxpg0 17iak0 2biw40 16u7w0 2biw40 17k580 2biw40 16u7w0 2c8tg0 16h980 2dbpg0 15ed80
 2w5hg0 15nmk0 2c8tg0 16h980 2dbpg0 15rbw0 2bvus0 16h980 2cls40 164ak0 2cls40 16h980 2c8tg0 16h980
 2c8tg0 16u7w0 2c8tg0 164ak0 2cls40 164ak0 2cls40 16h980 2c8tg0 16h980 2c8tg0 16h980 2c8tg0 16h980
 2dbpg0 15ed80 19vi5zj
America/Curacao AST4 -16547:LMT,-16200:-0430,-14400:AST 1-u7lckd 2rlo7qd
America/Danmarkshavn GMT0 -4480:LMT,-10800:-03,-7200*-02,0:GMT 1-rvusjk 2x8nx3k 18zrk0 29d1c0
 19d1c0 29d1c0 19d1c0 29d1c0 19d1c0 29d1c0 19q000 29d1c0 19d1c0 29d1c0 19d1c0 29d1c0 19d1c0 29d1c0
 19d1c0 29d1c0 19d1c0 29d1c0 19q000 29d1c0 19d1c0 29d1c0 19d1c0 29d1c0 19d1c0 29d1c0 19d1c0 29d1c0
 19d1c0 353hk0
America/Dawson MST7
 -33460:LMT,-32400:YST,-28800*YDT,-28800*YWT,-28800*YPT,-25200*YDDT,-28800:PST,-25200*PDT,-25200:MST
 1-1079suk 297l62k 1a2vw0 2asys0 1882c0 3bmiwc0 41tz000 12e180 5a7n3w0 19q000 6465k00 73e2is0
 69cyk0 79d440 69cyk0 79d440 69px80 7905g0 69px80 79d440 69cyk0 79d440 69cyk0 79d440 69cyk0 78a840
 6afuk0 78a840 6ast80 77x9g0 6ast80 77x9g0 6ast80 78a840 6afuk0 78a840 6afuk0 78a840 6ast80 77x9g0
 6ast80 77x9g0 6ast80 78a840 6afuk0 78a840 6afuk0 78a840 6afuk0 78a840 6ast80 77x9g0 6ast80 77x9g0
 6ast80 78a840 6afuk0 78a840 6afuk0 78a840 6ast80 77x9g0 6ast80 77x9g0 6ast80 76udg0 6c8nw0 76hes0
 6c8nw0 76hes0 6c8nw0 76udg0 6c8nw0 76hes0 6c8nw0 76hes0 6c8nw0 76hes0 6c8nw0 76hes0 6c8nw0 76hes0
 6c8nw0 76udg0 6c8nw0 76hes0 6c8nw0 76hes0 6c8nw0 76hes0 6c8nw0 76hes0 8c8ic0
America/Dawson_Creek MST7 -28856:LMT,-28800:PST,-25200*PDT,-25200*PWT,-25200*PPT,-25200:MST
 1-18vrweg 2hw36ug 1a2vw0 3c5jxg0 41tz2s0 12dyg0 2tj1g0 17x3w0 2asys0 17x3w0 2asys0 17x3w0 2b5xg0
 17k580 2b5xg0 17x3w0 2asys0 17x3w0 2asys0 17x3w0 2asys0 17x3w0 2asys0 17x3w0 2b5xg0 17x3w0 2asys0
 17x3w0 2asys0 17x3w0 2asys0 17x3w0 2asys0 17x3w0 2b5xg0 17k580 2b5xg0 19cyk0 29d440 19cyk0 29d440
 19cyk0 29d440 19px80 2905g0 19px80 29d440 19cyk0 29d440 19cyk0 29d440 19cyk0 29d440 19cyk0 29d440
 19px80 29d440 569uk0
America/Denver MST7MDT,M3.2.0,M11.1.0 -25196:LMT,-25200:MST,-21600*MDT,-21600*MWT,-21600*MPT
 1-18y0j80 2hxltk0 1ast80 27x9g0 1ast80 27x9g0 1b5rw0 27kas0 12vmk0 3ataw40 41tz5k0 12dvo0 2a7n9g0
 19px80 2905g0 19px80 29d440 19cyk0 29d440 19cyk0 29d440 19cyk0 29d440 19cyk0 29d440 19px80 29d440
 19cyk0 29d440 19cyk0 23lpg0 1f4d80 264g40 1clmk0 29d440 19px80 2905g0 19px80 29d440 19cyk0 29d440
 19cyk0 29d440 19cyk0 29d440 19cyk0 29d440 19px80 2905g0 19px80 29d440 19cyk0 29d440 19cyk0 29d440
 19cyk0 28a840 1afuk0 28a840 1ast80 27x9g0 1ast80 27x9g0 1ast80 28a840 1afuk0 28a840 1afuk0 28a840
 1ast80 27x9g0 1ast80 27x9g0 1ast80 28a840 1afuk0 28a840 1afuk0 28a840 1afuk0 28a840 1ast80 27x9g0
 1ast80 27x9g0 1ast80 28a840 1afuk0 28a840 1afuk0 28a840 1ast80 27x9g0 1ast80 27x9g0 1ast80 26udg0
America/Detroit EST5EDT,M3.2.0,M11.1.0
 -19931:LMT,-21600:CST,-18000:EST,-14400*EWT,-14400*EPT,-14400*EDT 1-xx8dyd 25eraud 3dyeyk0
 41tzb40 22dq40 51c9440 27x3w0 59rlbxo 271s2c 59d440 29cyk0 52cmdg0 29cyk0 53lpg0 2f4d80 59d440
 29cyk0 59d440 29px80 5905g0 29px80 59d440 29cyk0 59d440 29cyk0 59d440 29cyk0 59d440 29cyk0 59d440
 29px80 5905g0 29px80 59d440 29cyk0 59d440 29cyk0 59d440 29cyk0 58a840 2afuk0 58a840 2ast80 57x9g0
 2ast80 57x9g0 2ast80 58a840 2afuk0 58a840 2afuk0 58a840 2ast80 57x9g0 2ast80 57x9g0 2ast80 58a840
 2afuk0 58a840 2afuk0 58a840 2afuk0 58a840 2ast80 57x9g0 2ast80 57x9g0 2ast80 58a840 2afuk0 58a840
 2afuk0 58a840 2ast80 57x9g0 2ast80 57x9g0 2ast80 56udg0
America/Dominica AST4 -14736:LMT,-14400:AST 1-uj7wl0
America/Edmonton MST7MDT,M3.2.0,M11.1.0 -27232:LMT,-25200:MST,-21600*MDT,-21600*MWT,-21600*MPT
 1-x1yazk 2629ink 1a2vw0 28n6s0 129ek0 2h6lg0 19px80 2905g0 17x3w0 2b5xg0 17k580 2b5xg0 17x3w0
 39l0g40 41tz5k0 12dvo0 2tj1g0 17x3w0 2ctzk40 19cyk0 29d440 19cyk0 29d440 19cyk0 29d440 19cyk0
 29d440 19px80 2905g0 19px80 29d440 19cyk0 29d440 19cyk0 29d440 19cyk0 29d440 19cyk0 29d440 19px80
 2905g0 19px80 29d440 19cyk0 29d440 19cyk0 29d440 19cyk0 28a840 1afuk0 28a840 1ast80 27x9g0 1ast80
 27x9g0 1ast80 28a840 1afuk0 28a840 1afuk0 28a840 1ast80 27x9g0 1ast80 27x9g0 1ast80 28a840 1afuk0
 28a840 1afuk0 28a840 1afuk0 28a840 1ast80 27x9g0 1ast80 27x9g0 1ast80 28a840 1afuk0 28a840 1afuk0
 28a840 1ast80 27x9g0 1ast80 27x9g0 1ast80 26udg0
America/Eirunepe <-05>5 -16768:LMT,-18000:-05,-14400*-04,-14400:-04 1-t85f28 299ka68 19a9c0 29io40
 199980 28p65g0 16zuo0 2bs2o0 167zw0 2cjxg0 169uk0 2cjxg0 14ml80 25mf440 149mk0 2haas0 1316k0
 2cls40 14ml80 2cls40 166580 2cls40 167zw0 2981s40 16u7w0 2biw40 15rbw0 2d0lg0 15ed80 22yy2s0
 16h980 37hg2s0 12t2t80 1cmiwjj
America/El_Salvador CST6 -21408:LMT,-21600:CST,-18000*CDT 1-pkm4tc 2ymao5c 17k580 2b5xg0 17k580
America/Ensenada PST8PDT,M3.2.0,M11.1.0
 -28084:LMT,-25200:MST,-28800:PST,-25200*PDT,-25200*PWT,-25200*PPT 1-p1u4k0 211juo0 11sm040
 21si580 371s40 29cyk0 45iidg0 51q6700 24qzk0 318uw40 2eluk0 3oa5g0 27iak0 3b6300 27x3w0 3asys0
 27x3w0 3asw00 27x6o0 3asw00 27x6o0 3asw00 27x6o0 3b5uo0 27x6o0 3asw00 27x6o0 3asw00 27x6o0 3asw00
 27x6o0 3asw00 27x6o0 3b5uo0 27k800 3b5uo0 29d1c0 39d1c0 29d1c0 39d1c0 29d1c0 39d1c0 29q000 3902o0
 29q000 39d440 29cyk0 39d440 29cyk0 39d440 29cyk0 39d440 29cyk0 39d440 29px80 39d440 29cyk0 39d440
 29cyk0 33lpg0 2f4d80 364g40 2clmk0 39d440 29px80 3905g0 29px80 39d440 29cyk0 39d440 29cyk0 39d440
 29cyk0 39d440 29cyk0 39d440 29px80 3905g0 29px80 39d440 29cyk0 39d440 29cyk0 39d440 29cyk0 38a840
 2afuk0 38a840 2ast80 37x9g0 2ast80 37x9g0 2ast80 38a840 2afuk0 38a840 2afuk0 38a840 2ast80 37x9g0
 2ast80 37x9g0 2ast80 38a840 2afuk0 38a840 2afuk0 38a840 2afuk0 38a840 2ast80 37x9g0 2ast80 37x9g0
 2ast80 38a840 2afuk0 38a840 2afuk0 38a840 2ast80 37x9g0 2ast80 37x9g0 2ast80 37x9g0 2ast80 38a840
 2afuk0 38a840 2afuk0 377c40
America/Fort_Nelson MST7 -29447:LMT,-28800:PST,-25200*PDT,-25200*PWT,-25200*PPT,-25200:MST
 1-18vrvy1 2hw36e1 1a2vw0 3c5jxg0 41tz2s0 12dyg0 2tj1g0 17x3w0 2asys0 17x3w0 2asys0 17x3w0 2b5xg0
 17k580 2b5xg0 17x3w0 2asys0 17x3w0 2asys0 17x3w0 2asys0 17x3w0 2asys0 17x3w0 2b5xg0 17x3w0 2asys0
 17x3w0 2asys0 17x3w0 2asys0 17x3w0 2asys0 17x3w0 2b5xg0 17k580 2b5xg0 19cyk0 29d440 19cyk0 29d440
 19cyk0 29d440 19px80 2905g0 19px80 29d440 19cyk0 29d440 19cyk0 29d440 19cyk0 29d440 19cyk0 29d440
 19px80 29d440 19cyk0 29d440 19cyk0 29d440 19cyk0 29d440 19cyk0 29d440 19px80 2905g0 19px80 29d440
 19cyk0 29d440 19cyk0 29d440 19cyk0 29d440 19cyk0 29d440 19px80 2905g0 19px80 29d440 19cyk0 29d440
 19cyk0 29d440 19cyk0 28a840 1afuk0 28a840 1ast80 27x9g0 1ast80 27x9g0 1ast80 28a840 1afuk0 28a840
 1afuk0 28a840 1ast80 27x9g0 1ast80 27x9g0 1ast80 28a840 1afuk0 28a840 1afuk0 28a840 1afuk0 28a840
 1ast80 27x9g0 1ast80 27x9g0 1ast80 28a840 1afuk0 28a840 1afuk0 28a840 1ast80 27x9g0 1ast80 27x9g0
 1ast80 26udg0 1c8nw0 26hes0 1c8nw0 26hes0 1c8nw0 26udg0 1c8nw0 26hes0 1c8nw0 26hes0 1c8nw0 26hes0
 1c8nw0 26hes0 1c8nw0 56hes0
America/Fortaleza <-03>3 -9240:LMT,-10800:-03,-7200*-02 1-t85kvc 299kafc 19a9c0 29io40 199980
 28p65g0 16zuo0 2bs2o0 167zw0 2cjxg0 169uk0 2cjxg0 14ml80 25mf440 149mk0 2haas0 1316k0 2cls40
 14ml80 2cls40 166580 2cls40 167zw0 2981s40 16u7w0 2biw40 15rbw0 2d0lg0 15ed80 2cyqs0 15ed80
 2dbpg0 164ak0 2514g40 17k580 2biw40 1puk0 2id6s0 16h980 1iqwe3j
America/Glace_Bay AST4ADT,M3.2.0,M11.1.0 -14388:LMT,-14400:AST,-10800*ADT,-10800*AWT,-10800*APT
 1-z94kwc 289fk8c 1a2vw0 3c5jxg0 41tzdw0 12dnc0 23y8g40 17x3w0 29pa5g0 19cyk0 29d440 19cyk0 29d440
 19cyk0 29d440 19cyk0 29d440 19px80 2905g0 19px80 29d440 19cyk0 29d440 19cyk0 29d440 19cyk0 29d440
 19cyk0 29d440 19px80 2905g0 19px80 29d440 19cyk0 29d440 19cyk0 29d440 19cyk0 28a840 1afuk0 28a840
 1ast80 27x9g0 1ast80 27x9g0 1ast80 28a840 1afuk0 28a840 1afuk0 28a840 1ast80 27x9g0 1ast80 27x9g0
 1ast80 28a840 1afuk0 28a840 1afuk0 28a840 1afuk0 28a840 1ast80 27x9g0 1ast80 27x9g0 1ast80 28a840
 1afuk0 28a840 1afuk0 28a840 1ast80 27x9g0 1ast80 27x9g0 1ast80 26udg0
America/Goose_Bay AST4ADT,M3.2.0,M11.1.0
 -14500:LMT,-12652:NST,-9052*NDT,-12600:NST,-9000*NDT,-9000*NWT,-9000*NPT,-14400:AST,-10800*ADT,-7200*ADDT
 1-18vs7h8 2hw35go 1a2vw0 38kjbw0 4kzjyk 37k580 4b5xg0 37k580 4b5xg0 37k580 4biw40 3776k0 4biw40
 37k580 4b5xg0 37k580 5b5xg0 61pb260 32dly0 4biw40 37k580 4b5xg0 37k580 4b5xg0 37k580 4b5xg0
 37k580 4biw40 37k580 4ag040 37x3w0 4asys0 37x3w0 4asys0 37x3w0 4asys0 37x3w0 4asys0 37x3w0 4b5xg0
 37x3w0 4asys0 37x3w0 4asys0 37x3w0 4asys0 37x3w0 4asys0 39px80 49d440 39cyk0 49d440 39cyk0 49d440
 39cyk0 49d440 39cyk0 49d440 39px80 76y2s0 822420 79px80 89d440 79cyk0 89d440 79cyk0 89d440 79cyk0
 89d440 79cyk0 89d440 79px80 89d440 79cyk0 89d440 79cyk0 89d440 79cyk0 89d440 79cyk0 89d440 79px80
 8905g0 79px80 89d440 79cyk0 89d440 79cyk0 89d440 79cyk0 89d440 79cyk0 89d440 79px80 8905g0 79px80
 89d440 79cyk0 89d440 79cyk0 89d440 79cyk0 88a2lo 7afuk0 98a840 7asqg0 87xc80 7ast80 87x9g0 7ast80
 88a840 7afuk0 88a840 7afuk0 88a840 7ast80 87x9g0 7ast80 87x9g0 7ast80 88a840 7afuk0 88a840 7afuk0
 88a840 7afuk0 88a840 7ast80 87x9g0 7ast80 87x9g0 7ast80 88a840 7afuk0 88a840 7afuk0 88a840 7ast80
 87x9g0 7ast80 87x9g0 7ast80 86udg0 7c8nw0 86hes0 7c8nw0 86hes0 7c8nw0 86udg0 7c8nw0 86hes0 7c8tec
America/Grand_Turk EST5EDT,M3.2.0,M11.1.0 -17072:LMT,-18430:KMT,-18000:EST,-14400*EDT,-14400:AST
 1-15r0w5s 2biv7pq 3z3brw2 29cyk0 39d440 29cyk0 39d440 29cyk0 39d440 29px80 3905g0 29px80 39d440
 29cyk0 39d440 29cyk0 39d440 29cyk0 38a840 2afuk0 38a840 2ast80 37x9g0 2ast80 37x9g0 2ast80 38a840
 2afuk0 38a840 2afuk0 38a840 2ast80 37x9g0 2ast80 37x9g0 2ast80 38a840 2afuk0 38a840 2afuk0 38a840
 2afuk0 38a840 2ast80 37x9g0 2ast80 37x9g0 2ast80 38a840 2afuk0 38a840 2afuk0 38a840 2ast80 37x9g0
 2ast80 37x9g0 2ast80 36udg0 2c8nw0 36hes0 2c8nw0 36hes0 2c8nw0 36udg0 2c8nw0 36hes0 2c8nw0 36hes0
 2c8nw0 36hes0 2c8nw0 36hes0 2c8nw0 46hes0 31kj6o0
America/Grenada AST4 -14820:LMT,-14400:AST 1-uj7wkc
America/Guadeloupe AST4 -14768:LMT,-14400:AST 1-ukehxs
America/Guatemala CST6 -21724:LMT,-21600:CST,-18000*CDT 1-qqqskk 2ss0akk 14ofw0 24tidg0 16djw0
 23wwas0 18n180 27n5ms0 17x3w0
America/Guayaquil <-05>5 -19160:LMT,-18840:QMT,-18000:-05,-14400*-04 1-15r0ujs 2le9mf4 3wb620o
 23jp80 2nglhvj
America/Guyana <-04>4 -13959:LMT,-14400:-04,-13500:-0345,-10800:-03 1-uhmik9 21va8c9 3vj6nb0
 18p0jd0 1nwp4jj
America/Halifax AST4ADT,M3.2.0,M11.1.0 -15264:LMT,-14400:AST,-10800*ADT,-10800*AWT,-10800*APT
 1-z94k80 2777go0 19et80 2st9o0 1a2vw0 2ssyk0 15rbw0 2cv1g0 169uk0 2c6ys0 16kyk0 2ci2s0 167zw0
 2ci2s0 16w2k0 2bu040 17lzw0 2bu040 166580 2bu040 17lzw0 2bu040 164ak0 2cls40 15v180 2cv1g0 16j3w0
 2c6ys0 179180 2b42s0 17lzw0 2b42s0 17yyk0 2bu040 164ak0 2dbpg0 166580 2cls40 15ed80 2bu040 17lzw0
 2b42s0 17lzw0 2cjxg0 166580 2bh1g0 17lzw0 2b42s0 17lzw0 36uj00 41tzdw0 12dnc0 2asys0 17x3w0
 2asys0 17x3w0 2asys0 17x3w0 2asys0 17x3w0 2tw040 17x3w0 2asys0 17x3w0 2asys0 17x3w0 2asys0 17x3w0
 2tw040 17x3w0 2asys0 17x3w0 2asys0 17x3w0 2asys0 17x3w0 21cm2s0 19cyk0 29d440 19cyk0 29d440
 19cyk0 29d440 19px80 2905g0 19px80 29d440 19cyk0 29d440 19cyk0 29d440 19cyk0 29d440 19cyk0 29d440
 19px80 29d440 19cyk0 29d440 19cyk0 29d440 19cyk0 29d440 19cyk0 29d440 19px80 2905g0 19px80 29d440
 19cyk0 29d440 19cyk0 29d440 19cyk0 29d440 19cyk0 29d440 19px80 2905g0 19px80 29d440 19cyk0 29d440
 19cyk0 29d440 19cyk0 28a840 1afuk0 28a840 1ast80 27x9g0 1ast80 27x9g0 1ast80 28a840 1afuk0 28a840
 1afuk0 28a840 1ast80 27x9g0 1ast80 27x9g0 1ast80 28a840 1afuk0 28a840 1afuk0 28a840 1afuk0 28a840
 1ast80 27x9g0 1ast80 27x9g0 1ast80 28a840 1afuk0 28a840 1afuk0 28a840 1ast80 27x9g0 1ast80 27x9g0
 1ast80 26udg0
America/Havana CST5CDT,M3.2.0/0,M11.1.0/1 -19768:LMT,-19776:HMT,-18000:CST,-14400*CDT 1-15r0u2w
 2ijto08 31icfyo 269uk0 362s040 24ofw0 3e1ms0 251ek0 3e1ms0 24ofw0 31fhs40 24ofw0 3e1ms0 24ofw0
 39s9k40 267zw0 3cedg0 26h980 39o840 27yyk0 3b5xg0 27k580 3bvus0 29cyk0 39d440 29cyk0 39d440
 29px80 39d440 28a2k0 3ag040 28bx80 3ae5g0 28drw0 3acas0 29cyk0 39d440 29px80 3905g0 29px80 39q2s0
 27x3w0 38a840 2ast80 37x9g0 2ast80 3asys0 27x3w0 3asys0 27x3w0 3asys0 27x3w0 3asys0 28a2k0 3ag040
 28a2k0 37x9g0 2ast80 37x9g0 2ast80 38a840 2afuk0 38a840 2afuk0 3905g0 2a2vw0 3905g0 29q000 3902o0
 29q000 3902o0 29q000 3902o0 29q000 3902o0 29q000 39d1c0 29d1c0 39d1c0 29q000 38n400 2asw00 37x6o0
 2b5uo0 37x6o0 2asw00 37x6o0 2asw00 38a5c0 2afxc0 38a5c0 2afxc0 37x6o0 21cm000 36uao0 2bvs00
 3779c0 2bitc0 36uao0 2bvs00 3779c0 2bvs00 3779c0 2c8qo0 3779c0 2b5uo0
America/Hermosillo MST7 -26632:LMT,-25200:MST,-21600:CST,-21600*MDT 1-p1u4k0 22u5s00 11si580
 38jhg0 17x3w0 29eys0 1591h80 3s5qoc0 1afuk0 38a840 1afuk0 38a840 1afuk0
America/Indiana/Indianapolis EST5EDT,M3.2.0,M11.1.0
 -20678:LMT,-21600:CST,-18000*CDT,-18000*CWT,-18000*CPT,-18000:EST,-14400*EDT 1-18y0m00 2hxltk0
 1ast80 27x9g0 1ast80 2baw840 151ek0 36w840 41tz8c0 12dsw0 2asys0 17x3w0 2asys0 17x3w0 2asys0
 17x3w0 2asys0 17x3w0 2b5xg0 17k580 2b5xg0 17x3w0 2asys0 17x3w0 2asys0 17x3w0 2asys0 17x3w0 5asys0
 119q7w0 5asys0 65qonw0 59cyk0 69d440 59cyk0 6ihslg0 5ast80 66udg0
America/Indiana/Knox CST6CDT,M3.2.0,M11.1.0
 -20790:LMT,-21600:CST,-18000*CDT,-18000*CWT,-18000*CPT,-18000:EST 1-18y0m00 2hxltk0 1ast80 27x9g0
 1ast80 3bmtus0 41tz8c0 12dsw0 2tj1g0 17x3w0 2asys0 17x3w0 2asys0 17x3w0 2b5xg0 17k580 2b5xg0
 17x3w0 2asys0 17x3w0 2asys0 17x3w0 2asys0 17x3w0 2asys0 19px80 29d440 19cyk0 29d440 17x3w0 2asys0
 17x3w0 2asys0 19cyk0 29d440 19px80 29d440 19cyk0 59d440 1s3180 21twas0 19cyk0 29d440 19cyk0
 29d440 19cyk0 29d440 19cyk0 29d440 19px80 29d440 19cyk0 29d440 19cyk0 23lpg0 1f4d80 264g40 1clmk0
 29d440 19px80 2905g0 19px80 29d440 19cyk0 29d440 19cyk0 29d440 19cyk0 29d440 19cyk0 29d440 19px80
 2905g0 19px80 29d440 19cyk0 29d440 19cyk0 29d440 19cyk0 28a840 1afuk0 28a840 1ast80 27x9g0 1ast80
 27x9g0 1ast80 28a840 5afuk0 27j5400 1asw00 26udg0
America/Indiana/Marengo EST5EDT,M3.2.0,M11.1.0
 -20723:LMT,-21600:CST,-18000*CDT,-18000*CWT,-18000*CPT,-18000:EST,-14400*EDT 1-18y0m00 2hxltk0
 1ast80 27x9g0 1ast80 3bmtus0 41tz8c0 12dsw0 22wsas0 17x3w0 21c9440 17x3w0 2asys0 17x3w0 2b5xg0
 17x3w0 2asys0 17x3w0 2asys0 17x3w0 2asys0 17x3w0 2asys0 17x3w0 5b5xg0 6465h80 59cyk0 69d440
 59cyk0 69d440 59px80 69d440 59cyk0 69d440 59cyk0 23lpg0 5f4g00 664dc0 5clmk0 6fvt9g0 5ast80
 66udg0
America/Indiana/Petersburg EST5EDT,M3.2.0,M11.1.0
 -20947:LMT,-21600:CST,-18000*CDT,-18000*CWT,-18000*CPT,-18000:EST,-14400*EDT 1-18y0m00 2hxltk0
 1ast80 27x9g0 1ast80 3bmtus0 41tz8c0 12dsw0 2501ek0 17kas0 2b5xg0 17x3w0 2asys0 17x3w0 2asys0
 17x3w0 2asys0 17x3w0 2asys0 17x3w0 2b5xg0 19cyk0 29d440 19cyk0 29d440 19cyk0 29d440 19cyk0 59d440
 1sfzw0 29d440 19cyk0 29d440 19cyk0 29d440 19cyk0 29d440 19cyk0 29d440 19px80 29d440 19cyk0 29d440
 19cyk0 23lpg0 1f4d80 264g40 1clmk0 29d440 19px80 2905g0 59px80 2eu02o0 1asw00 26udg0 5c8nw0
 66hc00
America/Indiana/Tell_City CST6CDT,M3.2.0,M11.1.0
 -20823:LMT,-21600:CST,-18000*CDT,-18000*CWT,-18000*CPT,-18000:EST,-14400*EDT 1-18y0m00 2hxltk0
 1ast80 27x9g0 1ast80 3bmtus0 41tz8c0 12dsw0 2501ek0 17kas0 2b5xg0 17x3w0 2asys0 17x3w0 2asys0
 17x3w0 2asys0 17x3w0 2asys0 17x3w0 2b5xg0 19cyk0 29d440 19cyk0 29d440 19cyk0 59d440 11tw580
 29d440 19cyk0 69d440 59cvs0 69d440 59cyk0 2ihslg0 1asw00 26udg0
America/Indiana/Vevay EST5EDT,M3.2.0,M11.1.0
 -20416:LMT,-21600:CST,-18000*CDT,-18000*CWT,-18000*CPT,-18000:EST,-14400*EDT 1-18y0m00 2hxltk0
 1ast80 27x9g0 1ast80 3bmtus0 41tz8c0 12dsw0 54gyis0 67txx80 59cyk0 69d440 59cyk0 69d440 59px80
 69d440 59cyk0 6hfzhg0 5ast80 66udg0
America/Indiana/Vincennes EST5EDT,M3.2.0,M11.1.0
 -21007:LMT,-21600:CST,-18000*CDT,-18000*CWT,-18000*CPT,-18000:EST,-14400*EDT 1-18y0m00 2hxltk0
 1ast80 27x9g0 1ast80 3bmtus0 41tz8c0 12dsw0 2asys0 17x3w0 23fidg0 17x3w0 2asys0 17x3w0 2b5rw0
 17kas0 2b5xg0 17x3w0 2asys0 17x3w0 2asys0 17x3w0 2asys0 17x3w0 2asys0 19px80 29d440 17k580 2b5xg0
 19cyk0 29d440 19cyk0 59d440 62lz980 59cyk0 69d440 59cyk0 2ihslg0 1asw00 26udg0 5c8nw0 66hc00
America/Indiana/Winamac EST5EDT,M3.2.0,M11.1.0
 -20785:LMT,-21600:CST,-18000*CDT,-18000*CWT,-18000*CPT,-18000:EST,-14400*EDT 1-18y0m00 2hxltk0
 1ast80 27x9g0 1ast80 3bmtus0 41tz8c0 12dsw0 2asys0 17x3w0 2asys0 17x3w0 2asys0 17x3w0 2asys0
 17x3w0 2b5xg0 17k580 2b5xg0 17x3w0 2asys0 17x3w0 2asys0 17x3w0 2asys0 17x3w0 2asys0 19px80 29d440
 19cyk0 29d440 17x3w0 2asys0 17x3w0 2asys0 17x3w0 2asys0 17x3w0 5b5xg0 6465h80 59cyk0 69d440
 59cyk0 2ihslg0 1asw00 66udg0 5c8l40
America/Inuvik MST7MDT,M3.2.0,M11.1.0 0:-00,-28800:PST,-25200*PDT,-21600*MDT,-25200:MST 1-8ve5c0
 2a34zs0 19cyk0 29d440 19cyk0 29d440 19cyk0 29d440 19cyk0 29d440 19px80 2905g0 19px80 29d440
 19cyk0 39d440 49cvs0 39d440 49cyk0 39d440 49cyk0 39d440 49px80 3905g0 49px80 39d440 49cyk0 39d440
 49cyk0 39d440 49cyk0 38a840 4afuk0 38a840 4ast80 37x9g0 4ast80 37x9g0 4ast80 38a840 4afuk0 38a840
 4afuk0 38a840 4ast80 37x9g0 4ast80 37x9g0 4ast80 38a840 4afuk0 38a840 4afuk0 38a840 4afuk0 38a840
 4ast80 37x9g0 4ast80 37x9g0 4ast80 38a840 4afuk0 38a840 4afuk0 38a840 4ast80 37x9g0 4ast80 37x9g0
 4ast80 36udg0
America/Iqaluit EST5EDT,M3.2.0,M11.1.0
 0:-00,-14400*EWT,-14400*EPT,-18000:EST,-14400*EDT,-21600:CST,-18000*CDT 1-eb6ao0 21l3h80 32dq40
 4dvfpg0 39cyk0 49d440 39cyk0 49d440 39cyk0 49d440 39cyk0 49d440 39px80 4905g0 39px80 49d440
 39cyk0 49d440 39cyk0 49d440 39cyk0 49d440 39cyk0 49d440 39px80 4905g0 39px80 49d440 39cyk0 49d440
 39cyk0 49d440 39cyk0 48a840 3afuk0 48a840 3ast80 47x9g0 3ast80 47x9g0 3ast80 48a840 3afuk0 48a840
 3afuk0 48a840 3ast80 47x9g0 3ast80 47x9g0 3ast80 48a840 3afuk0 48a840 3afuk0 48a840 3afuk0 48a840
 5ast80 67xc80 3ast80 47x6o0 3ast80 48a840 3afuk0 48a840 3afuk0 48a840 3ast80 47x9g0 3ast80 47x9g0
 3ast80 46udg0
America/Jamaica EST5 -18430:LMT,-18430:KMT,-18000:EST,-14400*EDT 1-15r0v42 2biv6o0 3wbl182 2f4d80
 364g40 2clmk0 39d440 29px80 3905g0 29px80 39d440 29cyk0 39d440 29cyk0 39d440 29cyk0 39d440 29cyk0
 39d440 29px80 3905g0 29px80
America/Juneau AKST9AKDT,M3.2.0,M11.1.0
 54139:LMT,-32261:LMT,-28800:PST,-25200*PWT,-25200*PPT,-25200*PDT,-28800*YDT,-32400:YST,-32400:AKST,-28800*AKDT
 1-1hc7qjz 2h4yu44 3ln707v 41tz2s0 22dyg0 5cawis0 29cyk0 59d440 29cyk0 59d440 29px80 59d440 29cyk0
 59d440 29cyk0 53lpg0 2f4d80 564g40 2clmk0 59d440 29px80 5905g0 29px80 59d440 29cyk0 59d440 29cyk0
 69d440 29d1c0 59d1c0 29cyk0 59d440 29px80 5905g0 79px80 81leo0 97rs80 89cyk0 99d440 89cyk0 99d440
 89cyk0 98a840 8afuk0 98a840 8ast80 97x9g0 8ast80 97x9g0 8ast80 98a840 8afuk0 98a840 8afuk0 98a840
 8ast80 97x9g0 8ast80 97x9g0 8ast80 98a840 8afuk0 98a840 8afuk0 98a840 8afuk0 98a840 8ast80 97x9g0
 8ast80 97x9g0 8ast80 98a840 8afuk0 98a840 8afuk0 98a840 8ast80 97x9g0 8ast80 97x9g0 8ast80 96udg0
America/Kentucky/Louisville EST5EDT,M3.2.0,M11.1.0
 -20582:LMT,-21600:CST,-18000*CDT,-18000*CWT,-18000*CPT,-18000:EST,-14400*EDT 1-18y0m00 2hxltk0
 1ast80 27x9g0 1ast80 2sg5g0 16bp80 2a98o40 17x3w0 36w840 41tz8c0 12dsw0 2ast9o 11sw2c 221gis0
 17k580 2b5xg0 17x3w0 2asys0 17x3w0 2asys0 17x3w0 2asys0 17x3w0 2asys0 17x3w0 2b5xg0 19cyk0 29d440
 19cyk0 29d440 19cyk0 29d440 19cyk0 29d440 19px80 29d440 54bh80 63j3xc0 59cyk0 69d440 59cyk0
 69d440 59cyk0 69d440 59px80 69d440 59cyk0 69d440 59cyk0 23lpg0 5f4g00 664dc0 5clmk0 69d440 59px80
 6905g0 59px80 69d440 59cyk0 69d440 59cyk0 69d440 59cyk0 69d440 59cyk0 69d440 59px80 6905g0 59px80
 69d440 59cyk0 69d440 59cyk0 69d440 59cyk0 68a840 5afuk0 68a840 5ast80 67x9g0 5ast80 67x9g0 5ast80
 68a840 5afuk0 68a840 5afuk0 68a840 5ast80 67x9g0 5ast80 67x9g0 5ast80 68a840 5afuk0 68a840 5afuk0
 68a840 5afuk0 68a840 5ast80 67x9g0 5ast80 67x9g0 5ast80 68a840 5afuk0 68a840 5afuk0 68a840 5ast80
 67x9g0 5ast80 67x9g0 5ast80 66udg0
America/Kentucky/Monticello EST5EDT,M3.2.0,M11.1.0
 -20364:LMT,-21600:CST,-18000*CDT,-18000*CWT,-18000*CPT,-18000:EST,-14400*EDT 1-18y0m00 2hxltk0
 1ast80 27x9g0 1ast80 3bmtus0 41tz8c0 12dsw0 2bs6g40 19cyk0 29d440 19cyk0 29d440 19cyk0 29d440
 19px80 29d440 19cyk0 29d440 19cyk0 23lpg0 1f4d80 264g40 1clmk0 29d440 19px80 2905g0 19px80 29d440
 19cyk0 29d440 19cyk0 29d440 19cyk0 29d440 19cyk0 29d440 19px80 2905g0 19px80 29d440 19cyk0 29d440
 19cyk0 29d440 19cyk0 28a840 1afuk0 28a840 1ast80 27x9g0 1ast80 27x9g0 1ast80 28a840 1afuk0 28a840
 1afuk0 28a840 1ast80 27x9g0 1ast80 27x9g0 1ast80 28a840 1afuk0 28a840 1afuk0 28a840 1afuk0 28a840
 1ast80 27x9g0 5ast80 67x6o0 5ast80 68a840 5afuk0 68a840 5afuk0 68a840 5ast80 67x9g0 5ast80 67x9g0
 5ast80 66udg0
America/La_Paz <-04>4 -16356:LMT,-16356:CMT,-12756*BST,-14400:-04 1-15r0wpo 2lt1400 384ik0
 31j8fb57
America/Lima <-05>5 -18492:LMT,-18516:LMT,-18000:-05,-14400*-04 1-15r0v2c 29ov9co 3fcxjlo 24ml80
 393us0 29cyk0 39d440 29cyk0 3nw16s0 24ml80 3e5c40 24ml80 31fr1g0 24ml80 31yiys0 24ml80 2muzpvj
America/Los_Angeles PST8PDT,M3.2.0,M11.1.0 -28378:LMT,-28800:PST,-25200*PDT,-25200*PWT,-25200*PPT
 1-18y0gg0 2hxltk0 1ast80 27x9g0 1ast80 3bmtus0 41tz2s0 12dyg0 21a3c5o 1f2iic 2owao0 17k800 2b5uo0
 17x6o0 2asw00 17x6o0 2asw00 17x6o0 2asw00 17x6o0 2asw00 17x6o0 2b5uo0 17x6o0 2asw00 17x6o0 2asw00
 17x6o0 2asw00 17x6o0 2asw00 17x6o0 2b5uo0 17k800 2b5uo0 19d1c0 29d1c0 19d1c0 29d1c0 19d1c0 29d1c0
 19q000 2902o0 19q000 29d440 19cyk0 29d440 19cyk0 29d440 19cyk0 29d440 19cyk0 29d440 19px80 29d440
 19cyk0 29d440 19cyk0 23lpg0 1f4d80 264g40 1clmk0 29d440 19px80 2905g0 19px80 29d440 19cyk0 29d440
 19cyk0 29d440 19cyk0 29d440 19cyk0 29d440 19px80 2905g0 19px80 29d440 19cyk0 29d440 19cyk0 29d440
 19cyk0 28a840 1afuk0 28a840 1ast80 27x9g0 1ast80 27x9g0 1ast80 28a840 1afuk0 28a840 1afuk0 28a840
 1ast80 27x9g0 1ast80 27x9g0 1ast80 28a840 1afuk0 28a840 1afuk0 28a840 1afuk0 28a840 1ast80 27x9g0
 1ast80 27x9g0 1ast80 28a840 1afuk0 28a840 1afuk0 28a840 1ast80 27x9g0 1ast80 27x9g0 1ast80 26udg0
America/Maceio <-03>3 -8572:LMT,-10800:-03,-7200*-02 1-t85ldw 299kaxw 19a9c0 29io40 199980 28p65g0
 16zuo0 2bs2o0 167zw0 2cjxg0 169uk0 2cjxg0 14ml80 25mf440 149mk0 2haas0 1316k0 2cls40 14ml80
 2cls40 166580 2cls40 167zw0 2981s40 16u7w0 2biw40 15rbw0 2d0lg0 15ed80 2cyqs0 15ed80 2dbpg0
 164ak0 22yl440 164ak0 21wf1g0 17k580 2biw40 1puk0 2id6s0 16h980 1iqwe3j
America/Managua CST6 -20708:LMT,-20712:MMT,-21600:CST,-18000:EST,-18000*CDT 1-15r0tcs 2n7jmo4
 3ka1i0o 2xqqk0 424p6s0 253980 4dmtg0 253980 360itw0 2dq240 353es0 2235h80 44beis0 28zzw0 4at4c0
 27x140
America/Manaus <-04>4 -14404:LMT,-14400:-04,-10800*-03 1-t85gvw 299k97w 19a9c0 29io40 199980
 28p65g0 16zuo0 2bs2o0 167zw0 2cjxg0 169uk0 2cjxg0 14ml80 25mf440 149mk0 2haas0 1316k0 2cls40
 14ml80 2cls40 166580 2cls40 167zw0 2981s40 16u7w0 2biw40 15rbw0 2d0lg0 15ed80 22yy2s0 16h980
 1mx1vbj
America/Marigot AST4 -14764:LMT,-14400:AST 1-u6m79w
America/Martinique AST4 -14660:LMT,-14660:FFMT,-14400:AST,-10800*ADT 1-15r0y0s 2b4o2o0 3zz5x4s
 28zzw0
America/Matamoros CST6CDT,M3.2.0,M11.1.0 -23400:LMT,-21600:CST,-18000*CDT 1-p1u7c0 2ykt480 1ast80
 23vppg0 1afuk0 28a840 1afuk0 28a840 1afuk0 28a840 1ast80 27x9g0 1ast80 29q2s0 17k580 29q2s0
 1afuk0 28a840 1afuk0 28a840 1ast80 27x9g0 1ast80 27x9g0 1ast80 27x9g0 1ast80 28a840 1afuk0 28a840
 1afuk0 277c40
America/Mazatlan MST7 -25540:LMT,-25200:MST,-21600:CST,-21600*MDT 1-p1u4k0 22u5s00 11si580 38jhg0
 17x3w0 29eys0 1591h80 3s5qoc0 1afuk0 38a840 1afuk0 38a840 1afuk0 38a840 1ast80 37x9g0 1ast80
 39q2s0 17k580 39q2s0 1afuk0 38a840 1afuk0 38a840 1ast80 37x9g0 1ast80 37x9g0 1ast80 37x9g0 1ast80
 38a840 1afuk0 38a840 1afuk0 38a840 1ast80 37x9g0 1ast80 37x9g0 1ast80 38a840 1afuk0 38a840 1afuk0
 38a840 1afuk0 38a840 1ast80 37x9g0 1ast80 37x9g0 1ast80 38a840 1afuk0 38a840 1afuk0 38a840 1ast80
 37x9g0 1ast80
America/Menominee CST6CDT,M3.2.0,M11.1.0
 -21027:LMT,-21600:CST,-18000*CDT,-18000*CWT,-18000*CPT,-18000:EST 1-17zjvrx 2gz53bx 1ast80 27x9g0
 1ast80 3bmtus0 41tz8c0 12dsw0 2asys0 17x3w0 2a7n9g0 19px80 51at9g0 22396k0 19d1c0 23lpg0 1f4d80
 264g40 1clmk0 29d440 19px80 2905g0 19px80 29d440 19cyk0 29d440 19cyk0 29d440 19cyk0 29d440 19cyk0
 29d440 19px80 2905g0 19px80 29d440 19cyk0 29d440 19cyk0 29d440 19cyk0 28a840 1afuk0 28a840 1ast80
 27x9g0 1ast80 27x9g0 1ast80 28a840 1afuk0 28a840 1afuk0 28a840 1ast80 27x9g0 1ast80 27x9g0 1ast80
 28a840 1afuk0 28a840 1afuk0 28a840 1afuk0 28a840 1ast80 27x9g0 1ast80 27x9g0 1ast80 28a840 1afuk0
 28a840 1afuk0 28a840 1ast80 27x9g0 1ast80 27x9g0 1ast80 26udg0
America/Merida CST6 -21508:LMT,-21600:CST,-18000:EST,-18000*CDT 1-p1u7c0 2vb0dk0 1fzuk0 370bes0
 1afuk0 38a840 1afuk0 38a840 1afuk0 38a840 1ast80 37x9g0 1ast80 39q2s0 17k580 39q2s0 1afuk0 38a840
 1afuk0 38a840 1ast80 37x9g0 1ast80 37x9g0 1ast80 37x9g0 1ast80 38a840 1afuk0 38a840 1afuk0 38a840
 1ast80 37x9g0 1ast80 37x9g0 1ast80 38a840 1afuk0 38a840 1afuk0 38a840 1afuk0 38a840 1ast80 37x9g0
 1ast80 37x9g0 1ast80 38a840 1afuk0 38a840 1afuk0 38a840 1ast80 37x9g0 1ast80
America/Metlakatla AKST9AKDT,M3.2.0,M11.1.0
 54822:LMT,-31578:LMT,-28800:PST,-25200*PWT,-25200*PPT,-25200*PDT,-32400:AKST,-28800*AKDT
 1-1hc7qjz 2h4ytl5 3ln70qu 41tz2s0 22dyg0 5cawis0 29cyk0 59d440 29cyk0 59d440 29px80 59d440 29cyk0
 59d440 29cyk0 53lpg0 2f4d80 564g40 2clmk0 59d440 29px80 5905g0 29px80 59d440 29cyk0 59d440 29cyk0
 59d440 29cyk0 59d440 29cyk0 59d440 29px80 5905g0 29px80 6gpc840 76udg0 6c8nw0 76hes0 6c8nw0
 76hes0 2c8nw0 63ylc0 72itg0
America/Mexico_City CST6 -23796:LMT,-25200:MST,-21600:CST,-21600*MDT,-18000*CDT,-18000*CWT
 1-p1u4k0 22u5s00 11si580 38jhg0 17x3w0 29eys0 43knek0 2776k0 4rf440 25t6k0 51evk40 271mk0 430p1g0
 28n180 4nufxo0 2afuk0 48a840 2afuk0 48a840 2afuk0 48a840 2ast80 47x9g0 2ast80 49q2s0 27k580
 49q2s0 2afuk0 48a840 2afuk0 48a840 2ast80 47x9g0 2ast80 47x9g0 2ast80 47x9g0 2ast80 48a840 2afuk0
 48a840 2afuk0 48a840 2ast80 47x9g0 2ast80 47x9g0 2ast80 48a840 2afuk0 48a840 2afuk0 48a840 2afuk0
 48a840 2ast80 47x9g0 2ast80 47x9g0 2ast80 48a840 2afuk0 48a840 2afuk0 48a840 2ast80 47x9g0 2ast80
America/Miquelon <-03>3<-02>,M3.2.0,M11.1.0 -13480:LMT,-14400:AST,-10800:-03,-7200*-02 1-uk1k9k
 2zy4wpk 33m59g0 2afuk0 38a840 2ast80 37x9g0 2ast80 37x9g0 2ast80 38a840 2afuk0 38a840 2afuk0
 38a840 2ast80 37x9g0 2ast80 37x9g0 2ast80 38a840 2afuk0 38a840 2afuk0 38a840 2afuk0 38a840 2ast80
 37x9g0 2ast80 37x9g0 2ast80 38a840 2afuk0 38a840 2afuk0 38a840 2ast80 37x9g0 2ast80 37x9g0 2ast80
 36udg0 2c8nw0 36hes0 2c8nw0 36hes0 2c8nw0 36udg0 2c8nw0 36hes0 2c8nw0 36hes0 2c8nw0 36hes0 2c8nw0
 36hes0 2c8nw0 36hes0 2c8nw0 36udg0 2c8nw0 36hes0 2c8nw0 36hes0 2c8nw0 36hes0 2c8nw0 36hes0 2c8nw0
 36udg0 2c8nw0 36hes0 2c8nw0 36hes0 2c8nw0 36hes0 2c8nw0 36hes0 2c8nw0 36hes0 2c8nw0 36udg0 2c8nw0
 36hes0 2c8nw0 36hes0 2c8nw0 36hes0 2c8nw0 36hes0 2c8nw0 36udg0 2c8nw0 36hes0 2c8nw0 36hes0 2c8nw0
 36hes0 2c8nw0 36hes0 2c8nw0 36hes0 2c8nw0 2428jj
America/Moncton AST4ADT,M3.2.0,M11.1.0
 -15548:LMT,-18000:EST,-14400:AST,-10800*ADT,-10800*AWT,-10800*APT 1-18wys04 29nu9w4 389fhg0
 2a2vw0 37mqqo0 24ofw0 3e1ms0 24ofw0 3e1ms0 24ofw0 3e1ms0 24ofw0 3e1ms0 24ofw0 3e1ms0 24ofw0
 3dmtg0 264ak0 3cao40 26fek0 3bkqs0 27iak0 46y5k0 51tzdw0 22dnc0 3asys0 27x3w0 3asys0 27x3w0
 3asys0 27x3w0 3asys0 27x3w0 3b5xg0 27k580 3b5xg0 27x3w0 3asys0 27x3w0 3asys0 27x3w0 3asys0 27x3w0
 3asys0 27x3w0 3b5xg0 27x3w0 3asys0 29cyk0 39d440 29cyk0 39d440 29cyk0 39d440 29px80 39d440 29cyk0
 39d440 29cyk0 39d440 29cyk0 39d440 29cyk0 39d440 29px80 3905g0 29px80 39d440 29cyk0 39d440 29cyk0
 39d440 29cyk0 39d440 29cyk0 39d440 29px80 39d440 29cyk0 3s36s0 29cyk0 39d440 29cyk0 39d440 29px80
 3905g0 29px80 39d440 29cyk0 39d440 29cyk0 39d440 29cyk0 39d440 29cyk0 39d440 29px80 3905g0 29px80
 39d440 29cyk0 39d440 29cyk0 39d440 29cyk0 38a840 2afuk0 38a840 2ast80 37x9g0 2ast80 37x9g0 2ast80
 38a840 2afuk0 38a840 2afuk0 38a2lo 2ast80 37x9g0 2ast80 37x9g0 2ast80 38a840 2afuk0 38a840 2afuk0
 38a840 2afuk0 38a840 2ast80 37x9g0 2ast80 37x9g0 2ast80 38a840 2afuk0 38a840 2afuk0 38a840 2ast80
 37x9g0 2ast80 37x9g0 2ast80 36uiyc
America/Monterrey CST6 -24076:LMT,-25200:MST,-21600:CST,-21600*MDT,-18000*CDT 1-p1u7c0 22u5us0
 11si580 38jhg0 17x3w0 29eys0 4t89k40 2ast80 43vppg0 2afuk0 48a840 2afuk0 48a840 2afuk0 48a840
 2ast80 47x9g0 2ast80 49q2s0 27k580 49q2s0 2afuk0 48a840 2afuk0 48a840 2ast80 47x9g0 2ast80 47x9g0
 2ast80 47x9g0 2ast80 48a840 2afuk0 48a840 2afuk0 48a840 2ast80 47x9g0 2ast80 47x9g0 2ast80 48a840
 2afuk0 48a840 2afuk0 48a840 2afuk0 48a840 2ast80 47x9g0 2ast80 47x9g0 2ast80 48a840 2afuk0 48a840
 2afuk0 48a840 2ast80 47x9g0 2ast80
America/Montevideo <-03>3
 -13491:LMT,-13491:MMT,-14400:-04,-10800*-03,-12600:-0330,-9000*-0230,-10800:-03,-7200*-02,-5400*-0130
 1-w4mll9 267elc0 31s74p9 49et80 39exe0 49czy0 39exe0 49czy0 33ydyq0 47x5a0 3asxe0 47x5a0 3asxe0
 47x5a0 3asxe0 47x5a0 3b5w20 47k6m0 3b5w20 47k6m0 39q1e0 49czy0 3asxe0 47x5a0 36do20 5ppvy0 64mmm0
 58g9qq0 6901a0 738pe0 62inw0 72nf9g0 68zzw0 51e3s40 69o3y0 7q8he0 62kik0 7yxhg0 64bh80 8s36s0
 52vl60 6905g0 75rg20 651ek0 7weqs0 63yik0 7e1ms0 64ofw0 7erk40 63yik0 72vs40 6gk7w0 741iys0
 63wnw0 7erk40 64bh80 7c8tg0 664ak0 7c8tg0 66u7w0 7c8tg0 66h980 7bvus0 66u7w0 7614qs0 69q2s0
 7a31g0 67x3w0 7ag040 68a2k0 7asys0 67x3w0 7asys0 67x3w0 7asys0 68a2k0 7ag040 68a2k0 7ag040 68a2k0
 7asys0 67x3w0 7asys0 67x3w0 7asys0 67x3w0 6bxogjj
America/Montreal EST5EDT,M3.2.0,M11.1.0 -19052:LMT,-18000:EST,-14400*EDT,-14400*EWT,-14400*EPT
 1-1353das 2c5efes 1a2vw0 27yx60 1aqzy0 29q8c0 17jzo0 2bw0c0 16bp80 2cedg0 16h980 2c8tg0 16h980
 2bvus0 1776k0 2biw40 1776k0 2biw40 1776k0 2biw40 17k580 2b5xg0 17x3w0 2asys0 17x3w0 2asys0 17x3w0
 2asys0 17x3w0 2b5xg0 17k580 2b5xg0 17x3w0 2asys0 17x3w0 2asys0 17x3w0 2asys0 17x3w0 2asys0 17x3w0
 2asys0 17x3w0 2b5xg0 17k580 2b5xg0 3xjeo0 41tzb40 12dq40 2asys0 17x3w0 2asys0 17x3w0 2asys0
 17x3w0 2asys0 1b5rw0 27x9g0 1ast80 27x9g0 17x3w0 2asys0 17x3w0 2asys0 17x3w0 2asys0 17x3w0 2asys0
 17x3w0 2b5xg0 17x3w0 2asys0 19cyk0 29d440 19cyk0 29d440 19cyk0 29d440 19px80 29d440 19cyk0 29d440
 19cyk0 29d440 19cyk0 29d440 19cyk0 29d440 19px80 2905g0 19px80 29d440 19cyk0 29d440 19cyk0 29d440
 19cyk0 29d440 19cyk0 29d440 19px80 29d440 19cyk0 29d440 19cyk0 29d440 19cyk0 29d440 19cyk0 29d440
 19px80 2905g0 19px80 29d440 19cyk0 29d440 19cyk0 29d440 19cyk0 29d440 19cyk0 29d440 19px80 2905g0
 19px80 29d440 19cyk0 29d440 19cyk0 29d440 19cyk0 28a840 1afuk0 28a840 1ast80 27x9g0 1ast80 27x9g0
 1ast80 28a840 1afuk0 28a840 1afuk0 28a840 1ast80 27x9g0 1ast80 27x9g0 1ast80 28a840 1afuk0 28a840
 1afuk0 28a840 1afuk0 28a840 1ast80 27x9g0 1ast80 27x9g0 1ast80 28a840 1afuk0 28a840 1afuk0 28a840
 1ast80 27x9g0 1ast80 27x9g0 1ast80 26udg0
America/Montserrat AST4 -14932:LMT,-14400:AST 1-uj7wfk
America/Nassau EST5EDT,M3.2.0,M11.1.0 -18570:LMT,-18000:EST,-14400*EWT,-14400*EPT,-14400*EDT
 1-u6m4c6 2fqrow6 11e5h80 21lhg0 3a0nc0 13awk0 49o00c0 19cyk0 49d440 19px80 4905g0 19px80 49d440
 19cyk0 49d440 19cyk0 49d440 19cyk0 49d440 19cyk0 49d440 19px80 49d440 19cyk0 49d440 19cyk0 49d440
 19cyk0 49d440 19cyk0 49d440 19px80 4905g0 19px80 49d440 19cyk0 49d440 19cyk0 49d440 19cyk0 49d440
 19cyk0 49d440 19px80 4905g0 19px80 49d440 19cyk0 49d440 19cyk0 49d440 19cyk0 48a840 1afuk0 48a840
 1ast80 47x9g0 1ast80 47x9g0 1ast80 48a840 1afuk0 48a840 1afuk0 48a840 1ast80 47x9g0 1ast80 47x9g0
 1ast80 48a840 1afuk0 48a840 1afuk0 48a840 1afuk0 48a840 1ast80 47x9g0 1ast80 47x9g0 1ast80 48a840
 1afuk0 48a840 1afuk0 48a840 1ast80 47x9g0 1ast80 47x9g0 1ast80 46udg0
America/New_York EST5EDT,M3.2.0,M11.1.0 -17762:LMT,-18000:EST,-14400*EDT,-14400*EWT,-14400*EPT
 1-18y0os0 2hxltk0 1ast80 27x9g0 1ast80 27x9g0 1b5rw0 2905g0 17x3w0 2b5xg0 17k580 2b5xg0 17x3w0
 2asys0 17x3w0 2asys0 17x3w0 2asys0 17x3w0 2asys0 17x3w0 2b5xg0 17x3w0 2asys0 17x3w0 2asys0 17x3w0
 2asys0 17x3w0 2asys0 17x3w0 2b5xg0 17k580 2b5xg0 17x3w0 2asys0 17x3w0 2asys0 17x3w0 2asys0 17x3w0
 2asys0 17x3w0 2b5xg0 17k580 2b5xg0 17x3w0 2asys0 17x3w0 36w840 41tzb40 12dq40 2asys0 17x3w0
 2asys0 17x3w0 2asys0 17x3w0 2asys0 17x3w0 2b5xg0 17k580 2b5xg0 17x3w0 2asys0 17x3w0 2asys0 17x3w0
 2asys0 17x3w0 2asys0 19px80 29d440 19cyk0 29d440 19cyk0 29d440 19cyk0 29d440 19cyk0 29d440 19px80
 29d440 19cyk0 29d440 19cyk0 29d440 19cyk0 29d440 19cyk0 29d440 19px80 2905g0 19px80 29d440 19cyk0
 29d440 19cyk0 29d440 19cyk0 29d440 19cyk0 29d440 19px80 29d440 19cyk0 29d440 19cyk0 23lpg0 1f4d80
 264g40 1clmk0 29d440 19px80 2905g0 19px80 29d440 19cyk0 29d440 19cyk0 29d440 19cyk0 29d440 19cyk0
 29d440 19px80 2905g0 19px80 29d440 19cyk0 29d440 19cyk0 29d440 19cyk0 28a840 1afuk0 28a840 1ast80
 27x9g0 1ast80 27x9g0 1ast80 28a840 1afuk0 28a840 1afuk0 28a840 1ast80 27x9g0 1ast80 27x9g0 1ast80
 28a840 1afuk0 28a840 1afuk0 28a840 1afuk0 28a840 1ast80 27x9g0 1ast80 27x9g0 1ast80 28a840 1afuk0
 28a840 1afuk0 28a840 1ast80 27x9g0 1ast80 27x9g0 1ast80 26udg0
America/Nome AKST9AKDT,M3.2.0,M11.1.0
 46702:LMT,-39698:LMT,-39600:NST,-36000*NWT,-36000*NPT,-39600:BST,-36000*BDT,-32400:YST,-32400:AKST,-28800*AKDT
 1-1hc7qjz 2h4yzup 3ln72ta 41tyug0 22e6s0 5b7yik0 612y080 59cyk0 69d440 59cyk0 69d440 59px80
 69d440 59cyk0 69d440 59cyk0 63lpg0 5f4d80 664g40 5clmk0 69d440 59px80 6905g0 59px80 69d440 59cyk0
 69d440 59cyk0 69d440 59cyk0 69d440 59cyk0 69d440 59px80 6905g0 79px80 81l6c0 97rs80 89cyk0 99d440
 89cyk0 99d440 89cyk0 98a840 8afuk0 98a840 8ast80 97x9g0 8ast80 97x9g0 8ast80 98a840 8afuk0 98a840
 8afuk0 98a840 8ast80 97x9g0 8ast80 97x9g0 8ast80 98a840 8afuk0 98a840 8afuk0 98a840 8afuk0 98a840
 8ast80 97x9g0 8ast80 97x9g0 8ast80 98a840 8afuk0 98a840 8afuk0 98a840 8ast80 97x9g0 8ast80 97x9g0
 8ast80 96udg0
America/Noronha <-02>2 -7780:LMT,-7200:-02,-3600*-01 1-t85lzw 299k8rw 19a9c0 29io40 199980 28p65g0
 16zuo0 2bs2o0 167zw0 2cjxg0 169uk0 2cjxg0 14ml80 25mf440 149mk0 2haas0 1316k0 2cls40 14ml80
 2cls40 166580 2cls40 167zw0 2981s40 16u7w0 2biw40 15rbw0 2d0lg0 15ed80 2cyqs0 15ed80 2dbpg0
 164ak0 2514g40 17k580 2biw40 1cvw0 2iq5g0 16h980 1iqwgvj
America/North_Dakota/Beulah CST6CDT,M3.2.0,M11.1.0
 -24427:LMT,-25200:MST,-21600*MDT,-21600*MWT,-21600*MPT,-21600:CST,-18000*CDT 1-18y0j80 2hxltk0
 1ast80 27x9g0 1ast80 3bmtus0 41tz5k0 12dvo0 2b9gdg0 19cyk0 29d440 19cyk0 29d440 19cyk0 29d440
 19cyk0 29d440 19px80 29d440 19cyk0 29d440 19cyk0 23lpg0 1f4d80 264g40 1clmk0 29d440 19px80 2905g0
 19px80 29d440 19cyk0 29d440 19cyk0 29d440 19cyk0 29d440 19cyk0 29d440 19px80 2905g0 19px80 29d440
 19cyk0 29d440 19cyk0 29d440 19cyk0 28a840 1afuk0 28a840 1ast80 27x9g0 1ast80 27x9g0 1ast80 28a840
 1afuk0 28a840 1afuk0 28a840 1ast80 27x9g0 1ast80 27x9g0 1ast80 28a840 1afuk0 28a840 1afuk0 28a840
 1afuk0 28a840 1ast80 27x9g0 1ast80 27x9g0 1ast80 28a840 1afuk0 28a840 1afuk0 28a840 1ast80 27x9g0
 1ast80 27x9g0 1ast80 26udg0 1c8nw0 26hes0 1c8nw0 26hes0 1c8nw0 26udg0 5c8nw0 66hc00
America/North_Dakota/Center CST6CDT,M3.2.0,M11.1.0
 -24312:LMT,-25200:MST,-21600*MDT,-21600*MWT,-21600*MPT,-21600:CST,-18000*CDT 1-18y0j80 2hxltk0
 1ast80 27x9g0 1ast80 3bmtus0 41tz5k0 12dvo0 2b9gdg0 19cyk0 29d440 19cyk0 29d440 19cyk0 29d440
 19cyk0 29d440 19px80 29d440 19cyk0 29d440 19cyk0 23lpg0 1f4d80 264g40 1clmk0 29d440 19px80 2905g0
 19px80 29d440 19cyk0 29d440 19cyk0 29d440 19cyk0 29d440 19cyk0 29d440 19px80 2905g0 19px80 29d440
 19cyk0 29d440 19cyk0 29d440 19cyk0 28a840 1afuk0 28a840 1ast80 27x9g0 1ast80 27x9g0 1ast80 28a840
 1afuk0 28a840 5afuk0 68a5c0 5ast80 67x9g0 5ast80 67x9g0 5ast80 68a840 5afuk0 68a840 5afuk0 68a840
 5afuk0 68a840 5ast80 67x9g0 5ast80 67x9g0 5ast80 68a840 5afuk0 68a840 5afuk0 68a840 5ast80 67x9g0
 5ast80 67x9g0 5ast80 66udg0
America/North_Dakota/New_Salem CST6CDT,M3.2.0,M11.1.0
 -24339:LMT,-25200:MST,-21600*MDT,-21600*MWT,-21600*MPT,-21600:CST,-18000*CDT 1-18y0j80 2hxltk0
 1ast80 27x9g0 1ast80 3bmtus0 41tz5k0 12dvo0 2b9gdg0 19cyk0 29d440 19cyk0 29d440 19cyk0 29d440
 19cyk0 29d440 19px80 29d440 19cyk0 29d440 19cyk0 23lpg0 1f4d80 264g40 1clmk0 29d440 19px80 2905g0
 19px80 29d440 19cyk0 29d440 19cyk0 29d440 19cyk0 29d440 19cyk0 29d440 19px80 2905g0 19px80 29d440
 19cyk0 29d440 19cyk0 29d440 19cyk0 28a840 1afuk0 28a840 1ast80 27x9g0 1ast80 27x9g0 1ast80 28a840
 1afuk0 28a840 1afuk0 28a840 1ast80 27x9g0 1ast80 27x9g0 1ast80 28a840 1afuk0 28a840 1afuk0 28a840
 1afuk0 28a840 1ast80 27x9g0 1ast80 27x9g0 1ast80 28a840 1afuk0 28a840 5afuk0 68a5c0 5ast80 67x9g0
 5ast80 67x9g0 5ast80 66udg0
America/Nuuk <-02>2<-01>,M3.5.0/-1,M10.5.0/0 -12416:LMT,-10800:-03,-7200*-02,-7200:-02,-3600*-01
 1-rvumf4 2x8nqz4 18zrk0 29d1c0 19d1c0 29d1c0 19d1c0 29d1c0 19d1c0 29d1c0 19q000 29d1c0 19d1c0
 29d1c0 19d1c0 29d1c0 19d1c0 29d1c0 19d1c0 29d1c0 19d1c0 29d1c0 19q000 29d1c0 19d1c0 29d1c0 19d1c0
 29d1c0 19d1c0 29d1c0 19d1c0 29d1c0 19d1c0 29q000 1asw00 27x6o0 1asw00 27x6o0 1asw00 27x6o0 1b5uo0
 27k800 1b5uo0 27k800 1b5uo0 27x6o0 1asw00 27x6o0 1asw00 27x6o0 1b5uo0 27k800 1b5uo0 27k800 1b5uo0
 27k800 1b5uo0 27x6o0 1asw00 27x6o0 1asw00 27x6o0 1b5uo0 27k800 1b5uo0 27k800 1b5uo0 27x6o0 1asw00
 27x6o0 1asw00 27x6o0 1asw00 27x6o0 1b5uo0 27k800 1b5uo0 27k800 1b5uo0 27x6o0 1asw00 27x6o0 1asw00
 27x6o0 1b5uo0 27k800 1b5uo0 37k800 4j31c0 3asw00 47x6o0 3asw00 47x6o0 3asw00 47x6o0 3b5uo0 47k800
 3b5uo0 47k800 3b5uo0 47x6o0 3asw00 47x6o0 3asw00 47x6o0 3b5uo0 47k800 3b5uo0 47k800 3b5uo0 47k800
 3b5uo0 47x6o0 3asw00 47x6o0 3asw00 34ffjj
America/Ojinaga CST6CDT,M3.2.0,M11.1.0 -25060:LMT,-25200:MST,-21600:CST,-21600*MDT,-18000*CDT
 1-p1u4k0 22u5s00 11si580 38jhg0 17x3w0 29eys0 4xes2s0 2afuk0 48a840 2afuk0 38aaw0 1afuk0 38a840
 1ast80 37x9g0 1ast80 39q2s0 17k580 39q2s0 1afuk0 38a840 1afuk0 38a840 1ast80 37x9g0 1ast80 37x9g0
 1ast80 37x9g0 1ast80 38a840 1afuk0 38a840 1afuk0 377c40 1c8nw0 36hes0 1c8nw0 36hes0 1c8nw0 36hes0
 1c8nw0 36hes0 1c8nw0 36hes0 1c8nw0 36udg0 1c8nw0 36hes0 1c8nw0 36hes0 1c8nw0 36hes0 1c8nw0 36hes0
 1c8nw0 36udg0 1c8nw0 36hes0 2bvp80 46uao0
America/Panama EST5 -19088:LMT,-19176:CMT,-18000:EST 1-15r0uls 29jvmqg
America/Paramaribo <-03>3 -13240:LMT,-13252:PMT,-13236:PMT,-12600:-0330,-10800:-03 1-usj4g8
 2cixc0c 35lydbk 4kcrm6c 4rtftxj
America/Phoenix MST7 -26898:LMT,-25200:MST,-21600*MDT,-21600*MWT 1-18y0j80 2hxltk0 1ast80 27x9g0
 1ast80 3bmtus0 1zjedo 34olg0 19et80 2bs6lmc 19cyk0
America/Port-au-Prince EST5EDT,M3.2.0,M11.1.0 -17360:LMT,-17340:PPMT,-18000:EST,-14400*EDT
 1-15r0vxs 2e4gmng 3ylcf6c 28zzw0 39d440 29cyk0 39d440 29cyk0 39d440 29cyk0 39d440 29cyk0 38aaw0
 2asw00 37x6o0 2asw00 37x6o0 2asw00 38a5c0 2afxc0 38a5c0 2afxc0 38a5c0 2asw00 37x6o0 2asw00 37x6o0
 2asw00 38a5c0 2afxc0 38a5c0 2afxc0 33vpjw0 2ast80 37x9g0 2ast80 32stv00 2c8nw0 36hes0 2c8nw0
 36hes0 2c8nw0 36hes0 2c8nw0 3pkg40
America/Porto_Acre <-05>5 -16272:LMT,-18000:-05,-14400*-04,-14400:-04 1-t85fg0 299kak0 19a9c0
 29io40 199980 28p65g0 16zuo0 2bs2o0 167zw0 2cjxg0 169uk0 2cjxg0 14ml80 25mf440 149mk0 2haas0
 1316k0 2cls40 14ml80 2cls40 166580 2cls40 167zw0 2981s40 16u7w0 2biw40 15rbw0 2d0lg0 15ed80
 3amves0 12t2t80 1cmiwjj
America/Porto_Velho <-04>4 -15336:LMT,-14400:-04,-10800*-03 1-t85g60 299k8i0 19a9c0 29io40 199980
 28p65g0 16zuo0 2bs2o0 167zw0 2cjxg0 169uk0 2cjxg0 14ml80 25mf440 149mk0 2haas0 1316k0 2cls40
 14ml80 2cls40 166580 2cls40 167zw0 2981s40 16u7w0 2biw40 15rbw0 2d0lg0 15ed80 1q2h7bj
America/Puerto_Rico AST4 -15865:LMT,-14400:AST,-10800*AWT,-10800*APT 1-10xhp3b 2mhp1jb 31ppu40
 12dnc0
America/Punta_Arenas <-03>3
 -17020:LMT,-16965:SMT,-18000:-05,-14400:-04,-14400*-04,-10800*-03,-10800:-03 1-15r0w78 2ag6lah
 13dlssr 3157b79 1f4e0r 449hzb9 2aye0r 47ves0 2awik0 47ves0 2awik0 47ves0 2awik0 47ves0 2ayd80
 37ves0 2534ik0 3351g0 424lbw0 2b25c0 32mg00 5b73400 37k580 5c8tg0 36h980 5a31g0 37x3w0 5asys0
 37x3w0 5b5xg0 37k580 5ag040 38a2k0 5b5xg0 37k580 5b5xg0 37x3w0 5asys0 37x3w0 5asys0 37x3w0 5b5xg0
 37k580 5b5xg0 37k580 5b5xg0 37x3w0 5asys0 37x3w0 5asys0 37x3w0 5asys0 37x3w0 5b5xg0 37k580 5b5xg0
 37k580 5b5xg0 39cyk0 59d440 37x3w0 5asys0 37x3w0 5b5xg0 37k580 59q2s0 38zzw0 5b5xg0 37x3w0 5asys0
 37x3w0 5asys0 37x3w0 5asys0 37x3w0 5b5xg0 37k580 5b5xg0 38n180 5a31g0 37x3w0 5a31g0 39px80 59q2s0
 37x3w0 5b5xg0 37k580 5b5xg0 37k580 5b5xg0 37k580 5b5xg0 37x3w0 5asys0 37x3w0 5asys0 37x3w0 5b5xg0
 37k580 5b5xg0 38n180 5a31g0 37x3w0 5asys0 38zzw0 59q2s0 3ast80 55eis0 3cyl80 56hes0 3c8nw0 56udg0
 3bvp80 56udg0 3vonw0 54olg0 65rbw0 6b0wwnj
America/Rainy_River CST6CDT,M3.2.0,M11.1.0 -23316:LMT,-21600:CST,-18000*CDT,-18000*CWT,-18000*CPT
 1-171bfcc 2f0j80c 17k580 2tj700 1a2vw0 29ok840 16u7w0 32a5hg0 41tz8c0 12dsw0 2biw40 17x3w0 2a31g0
 17x3w0 2asys0 17x3w0 2asys0 17x3w0 2b7s40 17tek0 2autg0 17x3w0 2asys0 17x3w0 2asys0 17x3w0 2asys0
 17x3w0 2asys0 17x3w0 2b5xg0 17x3w0 2asys0 17x3w0 2asys0 17x3w0 2asys0 19cyk0 29d440 17x3w0
 21cm2s0 17k580 21cm2s0 19q000 29d1c0 19d1c0 29d1c0 19d1c0 29d1c0 19d1c0 29d1c0 19d1c0 29d1c0
 19q000 29d1c0 19d1c0 29d1c0 19d1c0 29d1c0 19d1c0 29d1c0 19d1c0 29d1c0 19q000 2902o0 19q000 29d1c0
 19d1c0 29d1c0 19d1c0 29d1c0 19d1c0 29d1c0 19d1c0 29d1c0 19q000 2902o0 19q000 29d1c0 19d1c0 29d1c0
 19d1c0 29d1c0 19d1c0 28a5c0 1afxc0 28a5c0 1asw00 27x6o0 1asw00 27x6o0 1asw00 28a5c0 1afxc0 28a5c0
 1afxc0 28a5c0 1asw00 27x6o0 1asw00 27x6o0 1asw00 28a5c0 1afxc0 28a5c0 1afxc0 28a5c0 1afxc0 28a5c0
 1asw00 27x6o0 1asw00 27x6o0 1asw00 28a5c0 1afxc0 28a5c0 1afxc0 28a5c0 1asw00 27x6o0 1asw00 27x6o0
 1ast80 26udg0
America/Rankin_Inlet CST6CDT,M3.2.0,M11.1.0 0:-00,-21600:CST,-18000*CDT,-18000:EST 1-6s8lc0
 27zza80 19cyk0 29d440 19cyk0 29d440 19cyk0 29d440 19cyk0 29d440 19px80 2905g0 19px80 29d440
 19cyk0 29d440 19cyk0 29d440 19cyk0 29d440 19cyk0 29d440 19px80 2905g0 19px80 29d440 19cyk0 29d440
 19cyk0 29d440 19cyk0 28a840 1afuk0 28a840 1ast80 27x9g0 1ast80 27x9g0 1ast80 28a840 1afuk0 28a840
 1afuk0 28a840 1ast80 27x9g0 1ast80 27x9g0 1ast80 28a840 1afuk0 28a840 1afuk0 28a840 1afuk0 28a840
 1ast80 27x9g0 3ast80 27x9g0 1ast80 28a840 1afuk0 28a840 1afuk0 28a840 1ast80 27x9g0 1ast80 27x9g0
 1ast80 26udg0
America/Recife <-03>3 -8376:LMT,-10800:-03,-7200*-02 1-t85ljc 299kb3c 19a9c0 29io40 199980 28p65g0
 16zuo0 2bs2o0 167zw0 2cjxg0 169uk0 2cjxg0 14ml80 25mf440 149mk0 2haas0 1316k0 2cls40 14ml80
 2cls40 166580 2cls40 167zw0 2981s40 16u7w0 2biw40 15rbw0 2d0lg0 15ed80 2cyqs0 15ed80 2dbpg0
 164ak0 2514g40 17k580 2biw40 1cvw0 2iq5g0 16h980 1iqwe3j
America/Regina CST6 -25116:LMT,-25200:MST,-21600*MDT,-21600*MWT,-21600*MPT,-21600:CST 1-xkq9yc
 26l1hmc 1a2vw0 260enw0 17x3w0 2asys0 17x3w0 2asys0 17x3w0 2b5xg0 17k580 2b5xg0 17x3w0 21b6840
 19cyk0 29d440 18zzw0 29q2s0 19cyk0 29q2s0 19cyk0 29d440 19cyk0 366gc0 41tz5k0 12dvo0 2a31g0
 19cyk0 2a31g0 17x3w0 2asys0 17x3w0 2asys0 17x3w0 2b5xg0 17k580 2b5xg0 17x3w0 2asys0 17x3w0 2asys0
 17x3w0 2asys0 17x3w0 2asys0 17x3w0 2b5xg0 17x3w0 2asys0 17x3w0 2tj1g0 19cyk0 59d440
America/Resolute CST6CDT,M3.2.0,M11.1.0 0:-00,-21600:CST,-18000*CDT,-18000:EST 1-bnp9c0 2cvfy80
 19cyk0 29d440 19cyk0 29d440 19cyk0 29d440 19cyk0 29d440 19px80 2905g0 19px80 29d440 19cyk0 29d440
 19cyk0 29d440 19cyk0 29d440 19cyk0 29d440 19px80 2905g0 19px80 29d440 19cyk0 29d440 19cyk0 29d440
 19cyk0 28a840 1afuk0 28a840 1ast80 27x9g0 1ast80 27x9g0 1ast80 28a840 1afuk0 28a840 1afuk0 28a840
 1ast80 27x9g0 1ast80 27x9g0 1ast80 28a840 1afuk0 28a840 1afuk0 28a840 1afuk0 28a840 1ast80 27x9g0
 3ast80 27x9g0 1ast80 28a840 1afuk0 28a840 1afuk0 28a840 1ast80 27x9g0 1ast80 27x9g0 3ast80 26udg0
America/Santarem <-03>3 -13128:LMT,-14400:-04,-10800*-03,-10800:-03 1-t85hvc 299ka7c 19a9c0 29io40
 199980 28p65g0 16zuo0 2bs2o0 167zw0 2cjxg0 169uk0 2cjxg0 14ml80 25mf440 149mk0 2haas0 1316k0
 2cls40 14ml80 2cls40 166580 2cls40 167zw0 2981s40 16u7w0 2biw40 15rbw0 2d0lg0 15ed80 3amves0
 3fflsjj
America/Santiago <-04>4<-03>,M9.1.6/24,M4.1.6/24
 -16965:LMT,-16965:SMT,-18000:-05,-14400:-04,-14400*-04,-10800*-03 1-15r0w8r 2ag6lc0 13dlssr
 3157b79 1f4e0r 449hzb9 2aye0r 47ves0 2awik0 47ves0 2awik0 47ves0 2awik0 47ves0 2ayd80 37ves0
 2534ik0 3351g0 5229zw0 42b980 2b2840 32mg00 5b73400 37k580 5c8tg0 36h980 5a31g0 37x3w0 5asys0
 37x3w0 5b5xg0 37k580 5ag040 38a2k0 5b5xg0 37k580 5b5xg0 37x3w0 5asys0 37x3w0 5asys0 37x3w0 5b5xg0
 37k580 5b5xg0 37k580 5b5xg0 37x3w0 5asys0 37x3w0 5asys0 37x3w0 5asys0 37x3w0 5b5xg0 37k580 5b5xg0
 37k580 5b5xg0 39cyk0 59d440 37x3w0 5asys0 37x3w0 5b5xg0 37k580 59q2s0 38zzw0 5b5xg0 37x3w0 5asys0
 37x3w0 5asys0 37x3w0 5asys0 37x3w0 5b5xg0 37k580 5b5xg0 38n180 5a31g0 37x3w0 5a31g0 39px80 59q2s0
 37x3w0 5b5xg0 37k580 5b5xg0 37k580 5b5xg0 37k580 5b5xg0 37x3w0 5asys0 37x3w0 5asys0 37x3w0 5b5xg0
 37k580 5b5xg0 38n180 5a31g0 37x3w0 5asys0 38zzw0 59q2s0 3ast80 55eis0 3cyl80 56hes0 3c8nw0 56udg0
 3bvp80 56udg0 3vonw0 54olg0 3e1h80 54olg0 3e1h80 54olg0 3c8nw0 57x9g0 3ast80 57x9g0 3ast80 57x9g0
 3ast80 58a840 3afuk0 57x9g0 3b5rw0 57x9g0 3ast80 57x9g0 3ast80 57x9g0 3ast80 57x9g0 3ast80 57x9g0
 3b5rw0 57kas0 3b5rw0 57x9g0 3ast80 57x9g0 3ast80 57x9g0 3ast80 57x9g0 3ast80 57x9g0 3b5rw0 57kas0
 3b5rw0 57x9g0 3ast80 57x9g0 56xxvj
America/Santo_Domingo AST4 -16776:LMT,-16800:SDMT,-18000:EST,-14400*EDT,-16200*-0430,-14400:AST
 1-15r0we0 2mkixco 3hiw29c 267zw0 41dy840 262ha0 4cnle0 24h2m0 4elyq0 247ta0 4ei9e0 24bim0 4eek20
 24dda0 5ecpe0 2dkmtg0 51stc0
America/Sao_Paulo <-03>3 -11188:LMT,-10800:-03,-7200*-02 1-t85jd8 299k8x8 19a9c0 29io40 199980
 28p65g0 16zuo0 2bs2o0 167zw0 2cjxg0 169uk0 2cjxg0 14ml80 25k02s0 16onw0 2haas0 1316k0 2cls40
 14ml80 2cls40 166580 2cls40 167zw0 2981s40 16u7w0 2biw40 15rbw0 2d0lg0 15ed80 2cyqs0 15ed80
 2dbpg0 164ak0 2cyqs0 164ak0 2cls40 15rbw0 2dbpg0 151ek0 2dbpg0 16h980 2c8tg0 16h980 2c8tg0 164ak0
 2c8tg0 16u7w0 2bxpg0 17iak0 2biw40 16u7w0 2biw40 17k580 2biw40 16u7w0 2c8tg0 16h980 2dbpg0 15ed80
 2cls40 164ak0 2dfes0 15nmk0 2c8tg0 16h980 2dbpg0 15rbw0 2bvus0 16h980 2cls40 164ak0 2cls40 16h980
 2c8tg0 16h980 2c8tg0 16u7w0 2c8tg0 164ak0 2cls40 164ak0 2cls40 16h980 2c8tg0 16h980 2c8tg0 16h980
 2c8tg0 16h980 2dbpg0 15ed80 19vi8rj
America/Scoresbysund <-02>2<-01>,M3.5.0/-1,M10.5.0/0 -5272:LMT,-7200:-02,-3600*-01,0*+00,-3600:-01
 1-rvurxk 2x8ntpk 1902o0 39cvs0 49cyk0 39d1c0 49d1c0 39d1c0 49d1c0 39d1c0 49q000 39d1c0 49d1c0
 39d1c0 49d1c0 39d1c0 49d1c0 39d1c0 49d1c0 39d1c0 49d1c0 39d1c0 49q000 39d1c0 49d1c0 39d1c0 49d1c0
 39d1c0 49d1c0 39d1c0 49d1c0 39d1c0 49d1c0 39q000 4asw00 37x6o0 4asw00 37x6o0 4asw00 37x6o0 4b5uo0
 37k800 4b5uo0 37k800 4b5uo0 37x6o0 4asw00 37x6o0 4asw00 37x6o0 4b5uo0 37k800 4b5uo0 37k800 4b5uo0
 37k800 4b5uo0 37x6o0 4asw00 37x6o0 4asw00 37x6o0 4b5uo0 37k800 4b5uo0 37k800 4b5uo0 37x6o0 4asw00
 37x6o0 4asw00 37x6o0 4asw00 37x6o0 4b5uo0 37k800 4b5uo0 37k800 4b5uo0 37x6o0 4asw00 37x6o0 4asw00
 37x6o0 4b5uo0 37k800 4b5uo0 37k800 4b5uo0 27x6o0 1asw00 27x6o0 1asw00 27x6o0 1asw00 27x6o0 1b5uo0
 27k800 1b5uo0 27k800 1b5uo0 27x6o0 1asw00 27x6o0 1asw00 27x6o0 1b5uo0 27k800 1b5uo0 27k800 1b5uo0
 27k800 1b5uo0 27x6o0 1asw00 27x6o0 1asw00 14ffjj
America/Sitka AKST9AKDT,M3.2.0,M11.1.0
 53927:LMT,-32473:LMT,-28800:PST,-25200*PWT,-25200*PPT,-25200*PDT,-32400:YST,-32400:AKST,-28800*AKDT
 1-1hc7qjz 2h4yua0 3ln701z 41tz2s0 22dyg0 5cawis0 29cyk0 59d440 29cyk0 59d440 29px80 59d440 29cyk0
 59d440 29cyk0 53lpg0 2f4d80 564g40 2clmk0 59d440 29px80 5905g0 29px80 59d440 29cyk0 59d440 29cyk0
 59d440 29cyk0 59d440 29cyk0 59d440 29px80 5905g0 69px80 71leo0 87rs80 79cyk0 89d440 79cyk0 89d440
 79cyk0 88a840 7afuk0 88a840 7ast80 87x9g0 7ast80 87x9g0 7ast80 88a840 7afuk0 88a840 7afuk0 88a840
 7ast80 87x9g0 7ast80 87x9g0 7ast80 88a840 7afuk0 88a840 7afuk0 88a840 7afuk0 88a840 7ast80 87x9g0
 7ast80 87x9g0 7ast80 88a840 7afuk0 88a840 7afuk0 88a840 7ast80 87x9g0 7ast80 87x9g0 7ast80 86udg0
America/St_Johns NST3:30NDT,M3.2.0,M11.1.0
 -12652:LMT,-12652:NST,-9052*NDT,-12600:NST,-9000*NDT,-9000*NWT,-9000*NPT,-5400*NDDT 1-18vs8wk
 2hd05k0 18bx80 2ar440 1a2vw0 29tjs0 153980 2dkys0 19cyk0 29d440 19cyk0 29q2s0 18zzw0 29q2s0
 18zzw0 29q2s0 18zzw0 29q2s0 18zzw0 29q2s0 19cyk0 29d440 19cyk0 29q2s0 18zzw0 29q2s0 18zzw0 29q2s0
 18zzw0 29q2s0 18zzw0 29q2s0 19cyk0 29q2s0 18zzw0 29q2s0 18zzw0 37tmw0 41wfuk 38zzw0 4a3480 37k580
 4b5xg0 37k580 4b5xg0 37k580 4biw40 3776k0 4biw40 37k580 4b5xg0 37k580 5b5xg0 61pb260 32dly0
 4biw40 37k580 4b5xg0 37k580 4b5xg0 37k580 4b5xg0 37k580 4biw40 37k580 4ag040 37x3w0 4asys0 37x3w0
 4asys0 37x3w0 4asys0 37x3w0 4asys0 37x3w0 4b5xg0 37x3w0 4asys0 37x3w0 4asys0 37x3w0 4asys0 37x3w0
 4asys0 39px80 49d440 39cyk0 49d440 39cyk0 49d440 39cyk0 49d440 39cyk0 49d440 39px80 4905g0 39px80
 49d440 39cyk0 49d440 39cyk0 49d440 39cyk0 49d440 39cyk0 49d440 39px80 49d440 39cyk0 49d440 39cyk0
 49d440 39cyk0 49d440 39cyk0 49d440 39px80 4905g0 39px80 49d440 39cyk0 49d440 39cyk0 49d440 39cyk0
 49d440 39cyk0 49d440 39px80 4905g0 39px80 49d440 39cyk0 49d440 39cyk0 49d440 39cyk0 48a2lo 3afuk0
 78a840 3asqg0 47xc80 3ast80 47x9g0 3ast80 48a840 3afuk0 48a840 3afuk0 48a840 3ast80 47x9g0 3ast80
 47x9g0 3ast80 48a840 3afuk0 48a840 3afuk0 48a840 3afuk0 48a840 3ast80 47x9g0 3ast80 47x9g0 3ast80
 48a840 3afuk0 48a840 3afuk0 48a840 3ast80 47x9g0 3ast80 47x9g0 3ast80 46udg0 3c8nw0 46hes0 3c8nw0
 46hes0 3c8nw0 46udg0 3c8nw0 46hes0 3c8tec
America/St_Kitts AST4 -15052:LMT,-14400:AST 1-u6m71w
America/St_Lucia AST4 -14640:LMT,-14640:CMT,-14400:AST 1-15r0y1c 2bh9s00
America/St_Thomas AST4 -15584:LMT,-14400:AST 1-uj7vz4
America/St_Vincent AST4 -14696:LMT,-14696:KMT,-14400:AST 1-15r0xzs 2bh9s00
America/Swift_Current CST6 -25880:LMT,-25200:MST,-21600*MDT,-21600*MWT,-21600*MPT,-21600:CST
 1-xkq9d4 26l1h14 1a2vw0 3c5jxg0 41tz5k0 12dvo0 2asys0 18n180 2a31g0 17x3w0 2asys0 17x3w0 2asys0
 17x3w0 23yles0 19cyk0 2s36s0 19cyk0 29d440 17x3w0 2b5xg0 17k580 55j4lg0
America/Tegucigalpa CST6 -20932:LMT,-21600:CST,-18000*CDT 1-pfzh6k 2yho0ik 17k580 2b5xg0 17k580
 296x1g0 14qak0
America/Thule AST4ADT,M3.2.0,M11.1.0 -16508:LMT,-14400:AST,-10800*ADT 1-rvuj9g 212yzilg 19cyk0
 29d440 19cyk0 29q2s0 1ast80 27x9g0 1ast80 27x9g0 1ast80 28a840 1afuk0 28a840 1afuk0 28a840 1afuk0
 28a840 1ast80 27x9g0 1ast80 27x9g0 1ast80 28a840 1afuk0 28a840 1afuk0 28a840 1ast80 27x9g0 1ast80
 27x9g0 1ast80 26udg0
America/Tortola AST4 -15508:LMT,-14400:AST 1-uj7w18
America/Vancouver PST8PDT,M3.2.0,M11.1.0 -29548:LMT,-28800:PST,-25200*PDT,-25200*PWT,-25200*PPT
 1-18vrvv8 2hw36b8 1a2vw0 3c5jxg0 41tz2s0 12dyg0 2asys0 17x3w0 2asys0 17x3w0 2asys0 17x3w0 2asys0
 17x3w0 2b5xg0 17k580 2b5xg0 17x3w0 2asys0 17x3w0 2asys0 17x3w0 2asys0 17x3w0 2asys0 17x3w0 2b5xg0
 17x3w0 2asys0 17x3w0 2asys0 17x3w0 2asys0 17x3w0 2asys0 17x3w0 2b5xg0 17k580 2b5xg0 19cyk0 29d440
 19cyk0 29d440 19cyk0 29d440 19px80 2905g0 19px80 29d440 19cyk0 29d440 19cyk0 29d440 19cyk0 29d440
 19cyk0 29d440 19px80 29d440 19cyk0 29d440 19cyk0 29d440 19cyk0 29d440 19cyk0 29d440 19px80 2905g0
 19px80 29d440 19cyk0 29d440 19cyk0 29d440 19cyk0 29d440 19cyk0 29d440 19px80 2905g0 19px80 29d440
 19cyk0 29d440 19cyk0 29d440 19cyk0 28a840 1afuk0 28a840 1ast80 27x9g0 1ast80 27x9g0 1ast80 28a840
 1afuk0 28a840 1afuk0 28a840 1ast80 27x9g0 1ast80 27x9g0 1ast80 28a840 1afuk0 28a840 1afuk0 28a840
 1afuk0 28a840 1ast80 27x9g0 1ast80 27x9g0 1ast80 28a840 1afuk0 28a840 1afuk0 28a840 1ast80 27x9g0
 1ast80 27x9g0 1ast80 26udg0
America/Whitehorse MST7
 -32412:LMT,-32400:YST,-28800*YDT,-28800*YWT,-28800*YPT,-25200*YDDT,-28800:PST,-25200*PDT,-25200:MST
 1-1079tno 297l6vo 1a2vw0 2asys0 1882c0 3bmiwc0 41tz000 12e180 5a7n3w0 19q000 664dc0 77e3pg0
 69cyk0 79d440 69cyk0 79d440 69px80 7905g0 69px80 79d440 69cyk0 79d440 69cyk0 79d440 69cyk0 78a840
 6afuk0 78a840 6ast80 77x9g0 6ast80 77x9g0 6ast80 78a840 6afuk0 78a840 6afuk0 78a840 6ast80 77x9g0
 6ast80 77x9g0 6ast80 78a840 6afuk0 78a840 6afuk0 78a840 6afuk0 78a840 6ast80 77x9g0 6ast80 77x9g0
 6ast80 78a840 6afuk0 78a840 6afuk0 78a840 6ast80 77x9g0 6ast80 77x9g0 6ast80 76udg0 6c8nw0 76hes0
 6c8nw0 76hes0 6c8nw0 76udg0 6c8nw0 76hes0 6c8nw0 76hes0 6c8nw0 76hes0 6c8nw0 76hes0 6c8nw0 76hes0
 6c8nw0 76udg0 6c8nw0 76hes0 6c8nw0 76hes0 6c8nw0 76hes0 6c8nw0 76hes0 8c8ic0
America/Yakutat AKST9AKDT,M3.2.0,M11.1.0
 52865:LMT,-33535:LMT,-32400:YST,-28800*YWT,-28800*YPT,-28800*YDT,-32400:AKST,-28800*AKDT
 1-1hc7qjz 2h4yv3i 3ln720h 41tz000 22e180 5cawis0 29cyk0 59d440 29cyk0 59d440 29px80 59d440 29cyk0
 59d440 29cyk0 53lpg0 2f4d80 564g40 2clmk0 59d440 29px80 5905g0 29px80 59d440 29cyk0 59d440 29cyk0
 59d440 29cyk0 59d440 29cyk0 59d440 29px80 5905g0 29px80 61lbw0 77rs80 69cyk0 79d440 69cyk0 79d440
 69cyk0 78a840 6afuk0 78a840 6ast80 77x9g0 6ast80 77x9g0 6ast80 78a840 6afuk0 78a840 6afuk0 78a840
 6ast80 77x9g0 6ast80 77x9g0 6ast80 78a840 6afuk0 78a840 6afuk0 78a840 6afuk0 78a840 6ast80 77x9g0
 6ast80 77x9g0 6ast80 78a840 6afuk0 78a840 6afuk0 78a840 6ast80 77x9g0 6ast80 77x9g0 6ast80 76udg0
Antarctica/Casey <+08>-8 0:-00,28800:+08,39600:+11 1-irxc0 2lag4o0 173bo0 2uz1o0 160l80 22fnh80
 1pz9g0 2at4c0 189u80 2acgc0 180no0 2asw1o 189wyc 2ag5po 189wyc 2ag5po 184lac 17rcf7j
Antarctica/Davis <+07>-7 0:-00,25200:+07,18000:+05 1-6rmdc0 042jdw0 127wgs0 2l8uss0 17eqs0 2unmk0
 160qs0 1dismrj
Antarctica/DumontDUrville <+10>-10 0:-00,36000:+10 1-c05eo0 02mks80 12i72g0 116dxkzj
Antarctica/Macquarie AEST-10AEDT,M10.1.0,M4.1.0/3 0:-00,36000:AEST,39600*AEDT 1-10mb9c0 28ts4g0
 1902o0 011wns0 1f4kh40 2a6p8g0 19d1c0 2asw00 16uao0 2bvs00 16uao0 2bvs00 1779c0 2bvs00 164dc0
 2clpc0 16hc00 2c8qo0 16hc00 2c8qo0 16hc00 2c8qo0 16uao0 2c8qo0 16hc00 2c8qo0 16hc00 2c8qo0 16hc00
 2c8qo0 16hc00 2c8qo0 16hc00 2c8qo0 17x6o0 2b5uo0 17k800 2b5uo0 16hc00 2c8qo0 16hc00 2c8qo0 16hc00
 2bvs00 17k800 2bitc0 17k800 2bitc0 1779c0 2bitc0 1779c0 2bitc0 17x6o0 29q000 1902o0 29q000 1902o0
 29q000 1902o0 29q000 1902o0 29q000 19d1c0 29q000 1902o0 29q000 1902o0 29q000 1902o0 29q000 1902o0
 27x6o0 1asw00 2a2yo0 1902o0 29q000 1902o0 29q000 1902o0 29q000 1902o0 29q000 19d1c0 29d1c0 1902o0
 2a2yo0 19d1c0 29d1c0 19d1c0 29d1c0 1s3400
Antarctica/Mawson <+05>-5 0:-00,21600:+06,18000:+05 1-8aelc0 2t22y80 2eqvo3j
Antarctica/McMurdo NZST-12NZDT,M9.5.0,M4.1.0/3 0:-00,43200:NZST,46800*NZDT 1-7b2dc0 29txtk0 15reo0
 2clpc0 16uao0 2c8qo0 16hc00 2c8qo0 16hc00 2c8qo0 16hc00 2c8qo0 16hc00 2c8qo0 16hc00 2c8qo0 16uao0
 2c8qo0 16hc00 2c8qo0 16hc00 2c8qo0 16hc00 2c8qo0 16hc00 2c8qo0 16hc00 2c8qo0 16uao0 2c8qo0 16hc00
 2b5uo0 18a5c0 2afxc0 18a5c0 2afxc0 18a5c0 2afxc0 18n400 2a2yo0 18n400 2a2yo0 18n400 2a2yo0 18n400
 2afxc0 18a5c0 2afxc0 18a5c0 2afxc0 18n400 2a2yo0 18n400 2a2yo0 18n400 2afxc0 18a5c0 2afxc0 18a5c0
 2afxc0 18n400 2a2yo0 18n400 2a2yo0 18n400 2a2yo0 18n400 2a2yo0
Antarctica/Palmer <-03>3 0:-00,-10800*-03,-14400:-04,-10800:-03,-7200*-02 1-2lxhc0 231ho0 1bqas0
 271mk0 1bqas0 28ovw0 19d440 29px80 19d440 29cyk0 39d440 428t6k0 351ek0 246b6s0 18c2s0 27x3w0
 1asys0 27x3w0 1b5xg0 27k580 1b5xg0 27k580 1b5xg0 29cyk0 19d440 27x3w0 1asys0 27x3w0 1b5xg0 27k580
 19q2s0 28zzw0 1b5xg0 27x3w0 1asys0 27x3w0 1asys0 27x3w0 1asys0 27x3w0 1b5xg0 27k580 1b5xg0 28n180
 1a31g0 27x3w0 1a31g0 29px80 19q2s0 27x3w0 1b5xg0 27k580 1b5xg0 27k580 1b5xg0 27k580 1b5xg0 27x3w0
 1asys0 27x3w0 1asys0 27x3w0 1b5xg0 27k580 1b5xg0 28n180 1a31g0 27x3w0 1asys0 28zzw0 19q2s0 2ast80
 15eis0 2cyl80 16hes0 2c8nw0 16udg0 2bvp80 16udg0 2vonw0 14olg0 35rbw0 3b0wwnj
Antarctica/Rothera <-03>3 0:-00,-10800:-03 13lxs00 1vwm8zj
Antarctica/Syowa <+03>-3 0:-00,10800:+03 1-6qsqo0 1169crnj
Antarctica/Troll <+00>0<+02>-2,M3.5.0/1,M10.5.0/3 0:-00,0:+00,7200*+02 1ibruo0 227pg0 1b5uo0
 27k800 1b5uo0 27k800 1b5uo0 27x6o0 1asw00 27x6o0 1asw00 27x6o0 1b5uo0 27k800 1b5uo0 27k800 1b5uo0
 27x6o0 1asw00 27x6o0 1asw00 27x6o0 1asw00 27x6o0 1b5uo0 27k800 1b5uo0 27k800 1b5uo0 27x6o0 1asw00
 27x6o0 1asw00 27x6o0 1b5uo0 27k800 1b5uo0 27k800 1b5uo0 27x6o0 1asw00 27x6o0 1asw00 27x6o0 1asw00
 27x6o0 1b5uo0 27k800 1b5uo0 27k800 1b5uo0 27x6o0 1asw00 27x6o0 1asw00 27x6o0 1b5uo0 27k800 1b5uo0
 27k800 1b5uo0 27k800 1b5uo0 27x6o0 1asw00 27x6o0 1asw00 14ffjj
Antarctica/Vostok <+05>-5 0:-00,25200:+07,18000:+05 1-6aaao0 0iushw0 1e23g0 2f79gs0 27cq9jj
Arctic/Longyearbyen CET-1CEST,M3.5.0,M10.5.0/3 2580:LMT,3600:CET,7200*CEST 1-1353tzo 2b5svbo
 16qfs0 2cgcqo0 115tsc0 27k800 19q000 29d1c0 19d1c0 29d1c0 19d1c0 270q5c0 19q000 29d1c0 19d1c0
 29d1c0 19d1c0 29d1c0 19d1c0 29d1c0 19d1c0 29d1c0 19q000 2b5uo0 17k800 27law00 1902o0 29d1c0
 19d1c0 29d1c0 19d1c0 29d1c0 19d1c0 29d1c0 19q000 29d1c0 19d1c0 29d1c0 19d1c0 29d1c0 19d1c0 29d1c0
 19d1c0 29d1c0 19d1c0 29d1c0 19q000 29d1c0 19d1c0 29d1c0 19d1c0 29d1c0 19d1c0 29d1c0 19d1c0 29d1c0
 19d1c0 29q000
Asia/Aden <+03>-3 10794:LMT,10800:+03 1-afs0bu 119yc1bd
Asia/Almaty <+05>-5 18468:LMT,18000:+05,21600:+06,25200*+07,21600*+06 1-nu1a90 237a0d0 3qi27w0
 29et80 39d440 29et80 39d440 29et80 39eys0 29d6w0 39d1c0 29d1c0 39d1c0 29d1c0 39d1c0 29d1c0 39d1c0
 29d1c0 39d1c0 29d1c0 39d1c0 29q000 49d1c0 19d440 25reo0 33ljw0 29d1c0 39d1c0 29d1c0 39d1c0 29d1c0
 39d1c0 29d1c0 39q000 2asw00 37x6o0 2asw00 37x6o0 2asw00 37x6o0 2b5uo0 37k800 2b5uo0 37k800 2b5uo0
 37x6o0 2asw00 37x6o0 2asw00 37x6o0 2b5uo0 1a37rs0 178xazj
Asia/Amman <+03>-3 8624:LMT,7200:EET,10800*EEST,10800:+03 1-kcrtbk 2m566fk 160l80 2awo40 17v980
 2awo40 17v980 2ayis0 19gnw0 29b9g0 17v980 2autg0 17v980 23e6840 19et80 29io40 19cyk0 29d440
 19cyk0 29d440 19px80 2ayis0 17rjw0 2ag040 18a2k0 29zc40 18drw0 2a31g0 18zzw0 29d440 19cyk0 29d440
 18n180 2ag040 18a5c0 2afxc0 18n400 2a2yo0 18n400 2a2yo0 18n400 2epmo0 14deo0 29o5c0 19ew00 29b6o0
 19ew00 29d1c0 19d1c0 29d1c0 1asw00 27x6o0 1afxc0 28n400 19d1c0 29d1c0 1asw00 27x6o0 1asw00 27x6o0
 1b5uo0 27k800 1b5uo0 27k800 1b5uo0 27x6o0 1asw00 27x6o0 1wel80 251k40 1b5uo0 27k800 1b5uo0 27x6o0
 1asw00 27x6o0 1asw00 27x6o0 1asw00 27x6o0 1asw00 27x6o0 1b5uo0 27k800 1b5uo0 264dc0 3clpc0
 37y4ejj
Asia/Anadyr <+12>-12 42596:LMT,43200:+12,46800:+13,50400*+14,46800*+13,43200*+12,39600:+11
 1-nu1sv8 2379zj8 3qi27w0 29et80 49d440 19ew00 49d440 19et80 49eys0 19d6w0 49d1c0 19d1c0 49d1c0
 19d1c0 49d1c0 19d1c0 49d1c0 19d1c0 49d1c0 19d1c0 49d1c0 19q000 59d1c0 69d440 15reo0 43ljw0 19d1c0
 49d1c0 19d1c0 49d1c0 19d1c0 49d1c0 19d1c0 49q000 1asw00 47x6o0 1asw00 47x6o0 1asw00 47x6o0 1b5uo0
 47k800 1b5uo0 47k800 1b5uo0 47x6o0 1asw00 47x6o0 1asw00 47x6o0 1b5uo0 47k800 1b5uo0 47k800 1b5uo0
 47k800 1b5uo0 47x6o0 1asw00 47x6o0 1asw00 57x6o0 6b5xg0 17k800 1dzvtzj
Asia/Aqtau <+05>-5 12064:LMT,14400:+04,18000:+05,21600:+06,21600*+06,18000*+05 1-nu15b4 2379y74
 3qrh3w0 49cyk0 29ew00 49d440 29et80 49eys0 29d6w0 49d1c0 29d1c0 49d1c0 29d1c0 49d1c0 29d1c0
 49d1c0 29d1c0 49d1c0 29d1c0 49d1c0 29q000 59d1c0 19d440 25reo0 43ljw0 29d1c0 49d1c0 29d1c0 49d1c0
 19d1c0 59d440 19d1c0 59q000 1asw00 57x6o0 1asw00 57x6o0 1asw00 57x6o0 1b5uo0 57k800 1b5uo0 57k800
 1b5uo0 57x6o0 1asw00 57x6o0 1asw00 57x6o0 2b5uo0 2hc4x7j
Asia/Aqtobe <+05>-5 13720:LMT,14400:+04,18000:+05,21600*+06,21600:+06,18000*+05 1-nu16l4 2379zh4
 3qi27w0 49et80 39d1c0 29ew00 39d440 29et80 39eys0 29d6w0 39d1c0 29d1c0 39d1c0 29d1c0 39d1c0
 29d1c0 39d1c0 29d1c0 39d1c0 29d1c0 39d1c0 29q000 59d1c0 19d440 25reo0 33ljw0 29d1c0 39d1c0 29d1c0
 39d1c0 29d1c0 39d1c0 29d1c0 39q000 2asw00 37x6o0 2asw00 37x6o0 2asw00 37x6o0 2b5uo0 37k800 2b5uo0
 37k800 2b5uo0 37x6o0 2asw00 37x6o0 2asw00 37x6o0 2b5uo0 2hc4zzj
Asia/Ashgabat <+05>-5 14012:LMT,14400:+04,18000:+05,21600*+06,18000*+05 1-nu16t8 2379zp8 3qi27w0
 29et80 39d440 29et80 39d440 29et80 39eys0 29d6w0 39d1c0 29d1c0 39d1c0 29d1c0 39d1c0 29d1c0 39d1c0
 29d1c0 39d1c0 29d1c0 39d1c0 29q000 49d1c0 19d440 25reo0 2o0b7vj
Asia/Atyrau <+05>-5 12464:LMT,10800:+03,18000:+05,21600:+06,21600*+06,18000*+05,14400:+04 1-nu15m8
 237a1a8 3qrh140 49cyk0 29ew00 49d440 29et80 49eys0 29d6w0 49d1c0 29d1c0 49d1c0 29d1c0 49d1c0
 29d1c0 49d1c0 29d1c0 49d1c0 29d1c0 49d1c0 29q000 59d1c0 69d440 25reo0 43ljw0 29d1c0 49d1c0 29d1c0
 49d1c0 29d1c0 49d1c0 29d1c0 49q000 2asw00 47x6o0 2asw00 47x6o0 2asw00 57x6o0 6b5xg0 57k800 6b5uo0
 57k800 6b5uo0 57x6o0 6asw00 57x6o0 6asw00 57x6o0 2b5uo0 2hc4x7j
Asia/Baghdad <+03>-3 10660:LMT,10656:BMT,10800:+03,14400*+04 1-15r1hk4 2em11c4 3xkn3w0 27v980
 39b9g0 29gnw0 39eys0 29et80 39d440 29b9g0 39d1c0 29d1c0 39d1c0 29d1c0 39d1c0 29d1c0 39d1c0 29d1c0
 39d1c0 29q000 39f1k0 29ew00 39ew00 29ew00 39d1c0 29ew00 39d1c0 29ew00 39d1c0 29ew00 39ew00 29ew00
 39d1c0 29ew00 39d1c0 29ew00 39d1c0 29ew00 39ew00 29ew00 39d1c0 29ew00 39d1c0 29ew00 39d1c0 29ew00
 39ew00 29ew00 39d1c0 29ew00 39d1c0 29ew00 39d1c0 29ew00 2ftcjnj
Asia/Bahrain <+03>-3 12140:LMT,12600:+0330,14400:+04,10800:+03 1-eukpd8 21a1eb8 3etwby0 3y9703j
Asia/Baku <+04>-4 11964:LMT,10800:+03,14400:+04,18000*+05,14400*+04 1-nu158c 2h4tkwc 3ckinw0
 29et80 39d440 29et80 39d440 29et80 39eys0 29d6w0 39d1c0 29d1c0 39d1c0 29d1c0 39d1c0 29d1c0 39d1c0
 29d1c0 39d1c0 29d1c0 39d1c0 29q000 49d1c0 19d440 49d1c0 29d1c0 31twdk0 2asw00 37x3w0 2asw00
 37x6o0 2asw00 37x6o0 2b5uo0 37k800 2b5uo0 37k800 2b5uo0 37x6o0 2asw00 37x6o0 2asw00 37x6o0 2b5uo0
 37k800 2b5uo0 37k800 2b5uo0 37k800 2b5uo0 37x6o0 2asw00 37x6o0 2asw00 37x6o0 2b5uo0 37k800 2b5uo0
 37k800 2b5uo0 37x6o0 2asw00 37x6o0 2asw00 37x6o0 2asw00 2blsznj
Asia/Bangkok <+07>-7 24124:LMT,24124:BMT,25200:+07 1-1ayyla4 2l06800 21phce9n
Asia/Barnaul <+07>-7 20100:LMT,21600:+06,25200:+07,28800*+08,25200*+07 1-q4ljic 25hu6uc 3qi27w0
 29et80 39d440 29et80 39d440 29et80 39eys0 29d6w0 39d1c0 29d1c0 39d1c0 29d1c0 39d1c0 29d1c0 39d1c0
 29d1c0 39d1c0 29d1c0 39d1c0 29q000 49d1c0 19d440 25reo0 33ljw0 29d1c0 39d1c0 29d1c0 39d1c0 29d1c0
 39d1c0 438fo0 164og0 49q000 1asw00 47x6o0 1asw00 47x6o0 1asw00 47x6o0 1b5uo0 47k800 1b5uo0 47k800
 1b5uo0 47x6o0 1asw00 47x6o0 1asw00 47x6o0 1b5uo0 47k800 1b5uo0 47k800 1b5uo0 47k800 1b5uo0 47x6o0
 1asw00 47x6o0 1asw00 47x6o0 1b5uo0 27k800 11vbzw0 2qnc40 2bdw43j
Asia/Beirut EET-2EEST,M3.5.0/0,M10.5.0/0 8520:LMT,7200:EET,10800*EEST 1-1ayy98o 2kzyuco 1aunw0
 288dg0 19et80 28yas0 1a2vw0 2a31g0 17k580 2hjqo40 17v980 2awo40 17v980 2awo40 17v980 2ayis0
 17v980 2awo40 17v980 25lhs40 156yk0 2awo40 17v980 2awo40 17v980 2awo40 17v980 2ayis0 17v980
 2awo40 17v980 2autg0 17v980 22wxus0 18n180 2a4w40 18n180 2a4w40 18n180 2a4w40 18n180 2bs5g0
 171mk0 2alk40 186d80 2a4w40 18n180 2a4w40 18n180 2a6qs0 180t80 2905g0 19cyk0 29d440 19cyk0 29d440
 19cyk0 29q2s0 19cyk0 29d440 19cyk0 29d440 19cyk0 29d440
Asia/Bishkek <+06>-6 17904:LMT,18000:+05,21600:+06,25200*+07,21600*+06 1-nu19tc 2379zxc 3qi27w0
 29et80 39d440 29et80 39d440 29et80 39eys0 29d6w0 39d1c0 29d1c0 39d1c0 29d1c0 39d1c0 29d1c0 39d1c0
 29d1c0 39d1c0 29d1c0 39d1c0 29q000 49d1c0 17vc00 4bkl80 18n180 4a31g0 18n180 4a31g0 18n180 4a31g0
 18n180 4a31g0 18zzw0 49db20 1ast80 47x9g0 1ast80 47x9g0 1b5rw0 47kas0 1b5rw0 47kas0 1b5rw0 47x9g0
 1ast80 47x9g0 1ast80 47x9g0 1b5rw0 47kas0 273aa0 2gxhgbj
Asia/Brunei <+08>-8 27580:LMT,27000:+0730,28800:+08 1-mvofy4 23khxs4 21itqj5j
Asia/Chita <+09>-9 27232:LMT,28800:+08,32400:+09,36000*+10,32400*+09,36000:+10 1-q4cfog 25hkxgg
 3qi27w0 29et80 39d440 29et80 39d440 29et80 39eys0 29d6w0 39d1c0 29d1c0 39d1c0 29d1c0 39d1c0
 29d1c0 39d1c0 29d1c0 39d1c0 29d1c0 39d1c0 29q000 49d1c0 19d440 25reo0 33ljw0 29d1c0 39d1c0 29d1c0
 39d1c0 29d1c0 39d1c0 29d1c0 39q000 2asw00 37x6o0 2asw00 37x6o0 2asw00 37x6o0 2b5uo0 37k800 2b5uo0
 37k800 2b5uo0 37x6o0 2asw00 37x6o0 2asw00 37x6o0 2b5uo0 37k800 2b5uo0 37k800 2b5uo0 37k800 2b5uo0
 37x6o0 2asw00 37x6o0 2asw00 37x6o0 2b5uo0 57k800 11vbzw0 2qnew0 2bdw9nj
Asia/Choibalsan <+08>-8 25652:LMT,25200:+07,28800:+08,32400*+09 1-xmcrsk 211sncck 32qk2k0 29et80
 39eys0 29cyk0 39d440 29cyk0 39d440 29cyk0 39d440 29cyk0 39d440 29cyk0 39d440 29cyk0 39d440 29px80
 39d440 29cyk0 39d440 29cyk0 39d440 29cyk0 39d440 29cyk0 39d440 29cyk0 39q2s0 29cyk0 39d440 29cyk0
 39d440 29cyk0 31ckdo0 27x3w0 39d440 29cyk0 39d440 29cyk0 39d440 29cyk0 39d440 29cyk0 39d440
 29px80 34fio40 29ct00 39d9o0 29ct00 2b4lbbj
Asia/Chongqing CST-8 29143:LMT,28800:CST,32400*CDT 1-100eztj 29jeyxj 18sl80 2asbpg0 16w2k0 27ves0
 1bxjw0 24mqs0 11vduk0 2d4as0 175bw0 2a31g0 1aaak0 29d440 17v980 2awo40 11dx80 2j9xpo0 16u7w0
 2asys0 17x3w0 2b5xg0 17k580 2b5xg0 17x3w0 2asys0 17x3w0 2asys0 17x3w0
Asia/Colombo <+0530>-5:30
 19164:LMT,19172:MMT,19800:+0530,21600*+06,23400*+0630,23400:+0630,21600:+06 1-1ayyhgc 2dkh6ns
 3isle6k 4cajy0 21mp2u0 5qetjw0 67x5a0 24xvqq0 2gktuxj
Asia/Damascus <+03>-3 8712:LMT,7200:EET,10800*EEST,10800:+03 1-q3gk20 25k6q0 18n180 2a31g0 18n180
 2a31g0 18n180 2a31g0 18zzw0 2k4hk40 17yyk0 2awo40 17tek0 2b0dg0 17v980 2awo40 17tek0 2alk40
 1887w0 2awo40 17v980 2ayis0 17v980 2awo40 17v980 2awo40 17v980 2awo40 17v980 2ayis0 17v980 2awo40
 17v980 2awo40 17v980 2awo40 17v980 2ayis0 17v980 2awo40 16bp80 2cg840 16bp80 22eh1g0 18zzw0
 29ts40 18zzw0 2pvk40 1c33w0 27cw40 1cjrw0 26zxg0 1btuk0 27rpg0 19gnw0 29d440 19cyk0 29et80 19et80
 29rxg0 191uk0 292040 19et80 29o840 19et80 29d440 19et80 29eys0 19et80 29b9g0 19gnw0 299es0 19iik0
 29d440 19et80 29eys0 19et80 29d440 19et80 29d440 19et80 29d440 19et80 29eys0 19et80 29d440 19et80
 29d440 18y580 29q2s0 1b5rw0 27x9g0 1aunw0 27ig40 1b5rw0 27x9g0 1ast80 27x9g0 1ast80 27x9g0 1ast80
 27x9g0 1ast80 27x9g0 1b5rw0 27kas0 1b5rw0 27kas0 1b5rw0 27x9g0 1ast80 27x9g0 1ast80 27x9g0 1ast80
 27x9g0 1b5rw0 27kas0 1b5rw0 27kas0 3b5rw0 37y4hbj
Asia/Dhaka <+06>-6 21700:LMT,21200:HMT,23400:+0630,19800:+0530,21600:+06,25200*+07 1-15r1q2s
 2r080dw 3bmgyw 25lxg0 44qknw0 5u4ijy0 4a1400 4en10fj
Asia/Dili <+09>-9 30140:LMT,28800:+08,32400:+09 1-u9s3k0 2fqct80 1hufs00 2cpz440 2jhkf7j
Asia/Dubai <+04>-4 13272:LMT,14400:+04 1-q3gnko 11pm0ok7
Asia/Dushanbe <+05>-5 16512:LMT,18000:+05,21600:+06,25200*+07,21600*+06 1-nu18qo 2379yuo 3qi27w0
 29et80 39d440 29et80 39d440 29et80 39eys0 29d6w0 39d1c0 29d1c0 39d1c0 29d1c0 39d1c0 29d1c0 39d1c0
 29d1c0 39d1c0 29d1c0 39d1c0 29q000 49d1c0 18c2s0 1o73qnj
Asia/Famagusta EET-2EEST,M3.5.0/3,M10.5.0/4 8148:LMT,7200:EET,10800*EEST,10800:+03 1-p4bqac
 2rvhy2c 19cyk0 2b42s0 17nuk0 28yas0 18zzw0 29q2s0 19et80 29b9g0 19cyk0 29q2s0 18zzw0 29d440
 19cyk0 29d440 19cyk0 29d440 19cyk0 29d440 19px80 29d440 19cyk0 29d440 19cyk0 29d440 19cyk0 29d440
 19cyk0 29d440 19cyk0 29d440 19px80 29d440 19cyk0 29d440 19cyk0 29d440 19cyk0 29d440 19cyk0 29d440
 19cyk0 29q2s0 19cyk0 29d440 19cyk0 29d440 1at4c0 27x6o0 1b5uo0 27k800 1b5uo0 27k800 1b5uo0 27x6o0
 1asw00 27x6o0 1asw00 27x6o0 1b5uo0 27k800 1b5uo0 27k800 1b5uo0 27k800 1b5uo0 27x6o0 1asw00 27x6o0
 1asw00 27x6o0 1b5uo0 27k800 1b5uo0 27k800 1b5uo0 27x6o0 1asw00 27x6o0 1asw00 27x6o0 1asw00 27x6o0
 38h8w0 1leog0
Asia/Gaza EET-2EEST,M3.4.4/50,M10.4.4/50 8272:LMT,7200:EET,10800*EEST,7200:IST,10800*IDT 1-1054x1s
 2kp9t1s 169xc0 22f1c0 110q800 27rmo0 1b0ao0 27thc0 1b0ao0 28jeo0 1a8io0 28jeo0 1a8io0 25hoig0
 17el80 2awo40 17v980 2awqw0 17tk40 2b07w0 17tk40 2ayd80 17tk40 2ayd80 17tk40 2ayd80 17tk40 2b07w0
 17tk40 2ayd80 17tk40 2ayd80 17ves0 2awik0 31sns0 43p6is0 351ek0 49q2s0 36u7w0 42kjk40 325s00
 41weyo0 35reo0 4bvs00 3776k0 4dbpg0 35rbw0 4bbhg0 37rjw0 4asys0 37k580 4c8tg0 36h980 4ag040
 37x3w0 4asys0 38a2k0 4asys0 38a2k0 4ap9g0 380t80 4ap9g0 37nuk0 4b2840 380t80 166as0 24vxc0 18n400
 2a2yo0 18n400 2a2yo0 18n400 2asw00 19cyk0 29q2s0 19cyk0 29d440 19cyk0 29d440 19cyk0 29d440 19cyk0
 29d440 18n400 2a2yo0 18ulg0 297ek0 18y580 29ts40 18hms0 2a4qk0 17x3w0 2asys0 18a5c0 2ahs1o 171mic
 2bzk5o 169uic 2cg840 1902o0 29q000 19cyk0 29d440 1ast80 27z440 1ar1c0 27z440 1b5rw0 27kas0 1b5rw0
 27kas0 1b5rw0 27vc00 1aunw0 27x9g0 1asw00 27x6o0 1b4000 27nxc0 1b42s0 29d440 19cyk0 2905g0 19px80
 28n6s0 1a2vw0 27x9g0 1ast80 27x9g0 1b5rw0 27kas0 1b5rw0 27kas0 1b5rw0 27x9g0 1ast80 27x9g0 1ast80
 27x9g0 1b5rw0 27kas0 1b5rw0 27kas0 1b5rw0 27kas0 1b5rw0 27x9g0 1afuk0 28a840 1a2vw0 28n6s0 19cyk0
 29d440 18zzw0 29q2s0 18a2k0 22itg0 1cvw0 27x9g0 17k580 225us0 112t80 27x9g0 1776k0 225us0 11frw0
 27x9g0 16h980 22itg0 11sqk0 27x9g0 164ak0 225us0 12vmk0 27kas0 15rbw0 225us0 138l80 27kas0 151ek0
 22itg0 13ljw0 27x9g0 14bh80 225us0 14bh80 27x9g0 13ljw0 22itg0 14ofw0 27x9g0 138l80 225us0 15rbw0
 27kas0 12vmk0 225us0 164ak0 27kas0 125p80 22itg0 16h980 27x9g0 11frw0 225us0 1776k0 27x9g0 1puk0
 22itg0 17k580 27x9g0 1cvw0 22itg0 17x3w0 2a31g0 18zzw0 29d440 19cyk0 28n6s0 1a2vw0 28a840 1afuk0
 27x9g0 1ast80 27x9g0 1b5rw0 27kas0 1b5rw0 27kas0 1b5rw0 27kas0 1b5rw0 27x9g0 1ast80 27x9g0 1ast80
 27x9g0 1b5rw0 27kas0 1b5rw0 27kas0 1ast80 28a840 1a2vw0 28n6s0 19px80 2905g0 18zzw0 29q2s0 18n180
 225us0 1cvw0 27kas0 18a2k0 225us0 1puk0 27kas0 17k580 22itg0 112t80 27x9g0 16u7w0 225us0 11sqk0
 27x9g0 164ak0 22itg0 125p80 27x9g0 15rbw0 22itg0 12vmk0 27kas0 15ed80 225us0 13ljw0 27kas0 14ofw0
 22itg0 13yik0 27x9g0 13yik0 225us0 14ofw0 27x9g0 13ljw0 225us0 151ek0 27x9g0 12vmk0 22itg0 15ed80
 27x9g0 12inw0 225us0 16h980 27kas0 11sqk0 22itg0 16u7w0 27kas0 11frw0 22itg0 1776k0 27x9g0 1puk0
 225us0 17x3w0
Asia/Hebron EET-2EEST,M3.4.4/50,M10.4.4/50 8423:LMT,7200:EET,10800*EEST,7200:IST,10800*IDT
 1-1054x5z 2kp9t5z 169xc0 22f1c0 110q800 27rmo0 1b0ao0 27thc0 1b0ao0 28jeo0 1a8io0 28jeo0 1a8io0
 25hoig0 17el80 2awo40 17v980 2awqw0 17tk40 2b07w0 17tk40 2ayd80 17tk40 2ayd80 17tk40 2ayd80
 17tk40 2b07w0 17tk40 2ayd80 17tk40 2ayd80 17ves0 2awik0 31sns0 43p6is0 351ek0 49q2s0 36u7w0
 42kjk40 325s00 41weyo0 35reo0 4bvs00 3776k0 4dbpg0 35rbw0 4bbhg0 37rjw0 4asys0 37k580 4c8tg0
 36h980 4ag040 37x3w0 4asys0 38a2k0 4asys0 38a2k0 4ap9g0 380t80 4ap9g0 37nuk0 4b2840 380t80 166as0
 24vxc0 18n400 2a2yo0 18n400 2a2yo0 18n400 2asw00 19cyk0 29q2s0 19cyk0 29d440 19cyk0 29d440 19cyk0
 29d440 19cyk0 29d440 18n400 2a2yo0 18ulg0 297ek0 18y580 29ts40 18hms0 2a4qk0 182nw0 2anes0 18a5c0
 2afxc0 173h80 2bzk5o 169uic 21hs40 11lbw0 29d440 1902o0 29q000 19cyk0 29d440 1ast80 27z440 1ar1c0
 27z440 1b5rw0 27kas0 1b5rw0 27kas0 1b5rw0 27vc00 1aunw0 27x9g0 1asw00 27x6o0 1b4000 27nxc0 1b42s0
 29d440 19cyk0 2905g0 19px80 28n6s0 1a2vw0 27x9g0 1ast80 27x9g0 1b5rw0 27kas0 1b5rw0 27kas0 1b5rw0
 27x9g0 1ast80 27x9g0 1ast80 27x9g0 1b5rw0 27kas0 1b5rw0 27kas0 1b5rw0 27kas0 1b5rw0 27x9g0 1afuk0
 28a840 1a2vw0 28n6s0 19cyk0 29d440 18zzw0 29q2s0 18a2k0 22itg0 1cvw0 27x9g0 17k580 225us0 112t80
 27x9g0 1776k0 225us0 11frw0 27x9g0 16h980 22itg0 11sqk0 27x9g0 164ak0 225us0 12vmk0 27kas0 15rbw0
 225us0 138l80 27kas0 151ek0 22itg0 13ljw0 27x9g0 14bh80 225us0 14bh80 27x9g0 13ljw0 22itg0 14ofw0
 27x9g0 138l80 225us0 15rbw0 27kas0 12vmk0 225us0 164ak0 27kas0 125p80 22itg0 16h980 27x9g0 11frw0
 225us0 1776k0 27x9g0 1puk0 22itg0 17k580 27x9g0 1cvw0 22itg0 17x3w0 2a31g0 18zzw0 29d440 19cyk0
 28n6s0 1a2vw0 28a840 1afuk0 27x9g0 1ast80 27x9g0 1b5rw0 27kas0 1b5rw0 27kas0 1b5rw0 27kas0 1b5rw0
 27x9g0 1ast80 27x9g0 1ast80 27x9g0 1b5rw0 27kas0 1b5rw0 27kas0 1ast80 28a840 1a2vw0 28n6s0 19px80
 2905g0 18zzw0 29q2s0 18n180 225us0 1cvw0 27kas0 18a2k0 225us0 1puk0 27kas0 17k580 22itg0 112t80
 27x9g0 16u7w0 225us0 11sqk0 27x9g0 164ak0 22itg0 125p80 27x9g0 15rbw0 22itg0 12vmk0 27kas0 15ed80
 225us0 13ljw0 27kas0 14ofw0 22itg0 13yik0 27x9g0 13yik0 225us0 14ofw0 27x9g0 13ljw0 225us0 151ek0
 27x9g0 12vmk0 22itg0 15ed80 27x9g0 12inw0 225us0 16h980 27kas0 11sqk0 22itg0 16u7w0 27kas0 11frw0
 22itg0 1776k0 27x9g0 1puk0 225us0 17x3w0
Asia/Ho_Chi_Minh <+07>-7 25590:LMT,25590:PLMT,25200:+07,28800:+08,32400:+09 1-x5692u 22isio0
 3gj25iu 415ct80 28so00 3tmtk0 24azmo0 32cm7w0 28285c0 2wo9b7j
Asia/Hong_Kong HKT-8 27402:LMT,28800:HKT,32400*HKST,30600*HKWT,32400:JST 1-y0i0s0 2j44dk0 35k000
 44d4y0 12195i0 27x3w0 1bj320 26uao0 1bvs00 27x6o0 19d1c0 27x6o0 1asw00 27x6o0 1asw00 27x6o0
 1asw00 28a5c0 1asw00 27x6o0 1ast80 277c40 1biqk0 277c40 1bvp80 26udg0 1bvp80 277c40 1biqk0 277c40
 1biqk0 277c40 1biqk0 277c40 1bvp80 26udg0 1bvp80 26udg0 1bvp80 277c40 1biqk0 277c40 1biqk0 28n6s0
 19cyk0 29d440 19cyk0 29d440 19px80 29d440 19cyk0 29d440 19cyk0 29d440 19cyk0 29d440 19cyk0 29d440
 19px80 29d440 19cyk0 23lpg0 1f4d80 29d440 19cyk0 29d440 19cyk0 21c9440 18a2k0
Asia/Hovd <+07>-7 21996:LMT,21600:+06,25200:+07,28800*+08 1-xmcoz0 211sncb0 32qk2k0 29et80 39eys0
 29cyk0 39d440 29cyk0 39d440 29cyk0 39d440 29cyk0 39d440 29cyk0 39d440 29cyk0 39d440 29px80 39d440
 29cyk0 39d440 29cyk0 39d440 29cyk0 39d440 29cyk0 39d440 29cyk0 39q2s0 29cyk0 39d440 29cyk0 39d440
 29cyk0 31ckdo0 27x3w0 39d440 29cyk0 39d440 29cyk0 39d440 29cyk0 39d440 29cyk0 39d440 29px80
 34fio40 29ct00 39d9o0 29ct00 2b4l8jj
Asia/Irkutsk <+08>-8 25025:LMT,25025:IMT,25200:+07,28800:+08,32400*+09,28800*+08,32400:+09
 1-1ayylz5 2kwq5c0 35fh175 4qi27w0 39et80 49d440 39et80 49d440 39et80 49eys0 39d6w0 49d1c0 39d1c0
 49d1c0 39d1c0 49d1c0 39d1c0 49d1c0 39d1c0 49d1c0 39d1c0 49d1c0 39q000 59d1c0 29d440 35reo0 43ljw0
 39d1c0 49d1c0 39d1c0 49d1c0 39d1c0 49d1c0 39d1c0 49q000 3asw00 47x6o0 3asw00 47x6o0 3asw00 47x6o0
 3b5uo0 47k800 3b5uo0 47k800 3b5uo0 47x6o0 3asw00 47x6o0 3asw00 47x6o0 3b5uo0 47k800 3b5uo0 47k800
 3b5uo0 47k800 3b5uo0 47x6o0 3asw00 47x6o0 3asw00 47x6o0 3b5uo0 67k800 31vbzw0 3c4jlrj
Asia/Istanbul <+03>-3 6952:LMT,7016:IMT,7200:EET,10800*EEST,10800:+03,14400*+04 1-1ayy814 2g1oam8
 32wvx6w 27v980 31tjc40 2aunw0 388dg0 29et80 38yas0 2a2vw0 3tzpg0 279180 3awo40 27v980 37p4040
 24zjw0 32vs40 2f4d80 39vms0 21u5ek0 3c5440 269uk0 3acas0 28n180 3a31g0 28n180 39q2s0 28zzw0
 3a31g0 28zzw0 3a31g0 28n180 35md9g0 2o9zw0 3a6qs0 275bw0 34iwyw0 27x6o0 37kas0 2b5rw0 375hg0
 2bkl80 377c40 2biqk0 37x9g0 2a2vw0 38n6s0 44iqc0 52nkw80 438l80 2kdes0 38qtc0 28a5c0 39ew00
 29d1c0 39d1c0 29d1c0 39d1c0 29d1c0 39d1c0 29d1c0 39d1c0 29q000 39d1c0 29d1c0 39d1c0 29d1c0 39d1c0
 29d1c0 3902o0 29q000 39d1c0 29d1c0 39q000 2asw00 37x6o0 2asw00 37x6o0 2asw00 37x6o0 2b5uo0 37k800
 2b5uo0 37k800 2b5uo0 37x6o0 2asw00 37x6o0 2asw00 37x6o0 2b5uo0 37k800 2b5uo0 37k800 2b5uo0 37kdk0
 2b5uo0 37x6o0 2asw00 37x6o0 2asw00 37x6o0 2b5uo0 37m2o0 2b4000 37k800 2b5uo0 37x6o0 2asw00 37z1c0
 2ar1c0 37x6o0 2bitc0 3779c0 48fe80 4b5gbzj
Asia/Jakarta WIB-7 25632:LMT,25632:BMT,26400:+0720,27000:+0730,32400:+09,28800:+08,25200:WIB
 1-1hftyg0 2tfikqo 34lzxc0 44wdzjc 31tu960 51cx860 311jta0 674uc20
Asia/Jayapura WIT-9 33768:LMT,32400:+09,34200:+0930,32400:WIT 1-jebm20 266bqe0 3a37vy0
Asia/Jerusalem IST-2IDT,M3.4.4/26,M10.5.0 8454:LMT,8440:JMT,7200:IST,10800*IDT,14400*IDDT
 1-1ayy96u 2jtxuoe 3bp5aig 269xc0 32f1c0 210q800 37rmo0 2b0ao0 37thc0 2b0ao0 38jeo0 2a8io0 38jeo0
 2a8io0 4t9pc0 3571c0 234yo0 39b6o0 29gqo0 38jeo0 27thc0 3a6o00 2bitc0 38a5c0 29d1c0 3902o0 27x6o0
 3e1k00 24oio0 3e1k00 24oio0 3dolc0 264dc0 3asw00 27k800 38rfeg0 251ek0 39q2s0 26u7w0 32kjk40
 225s00 31weyo0 25reo0 3bvs00 2776k0 3dbpg0 25rbw0 3bbhg0 27rjw0 3asys0 27k580 3c8tg0 26h980
 3ag040 27x3w0 3asys0 28a2k0 3asys0 28a2k0 3ap9g0 280t80 3ap9g0 27nuk0 3b2840 280t80 39zc40 29iik0
 39kis0 293p80 39mdg0 28qqk0 3apf00 27x3w0 3biw40 28zx40 39io40 28n180 39kis0 29vh80 38ulg0 29px80
 39mdg0 28n180 39tuw0 29tmk0 38wg40 29gnw0 399es0 28qqk0 39zc40 29tmk0 38wg40 29gnw0 399es0 28qqk0
 3acas0 29gnw0 399es0 293p80 39mdg0
Asia/Kabul <+0430>-4:30 16608:LMT,14400:+04,16200:+0430 1-15r1m5c 2spc1pc 21ck9lfj
Asia/Kamchatka <+12>-12 38076:LMT,39600:+11,43200:+12,46800*+13,43200*+12 1-olrupo 23z045o 3qi27w0
 29et80 39d440 29et80 39d440 29et80 39eys0 29d6w0 39d1c0 29d1c0 39d1c0 29d1c0 39d1c0 29d1c0 39d1c0
 29d1c0 39d1c0 29d1c0 39d1c0 29q000 49d1c0 19d440 25reo0 33ljw0 29d1c0 39d1c0 29d1c0 39d1c0 29d1c0
 39d1c0 29d1c0 39q000 2asw00 37x6o0 2asw00 37x6o0 2asw00 37x6o0 2b5uo0 37k800 2b5uo0 37k800 2b5uo0
 37x6o0 2asw00 37x6o0 2asw00 37x6o0 2b5uo0 37k800 2b5uo0 37k800 2b5uo0 37k800 2b5uo0 37x6o0 2asw00
 37x6o0 2asw00 47x6o0 1b5xg0 27k800 2dzvtzj
Asia/Karachi PKT-5 16092:LMT,19800:+0530,23400*+0630,18000:+05,18000:PKT,21600*PKST 1-wvpb30
 2im3zt0 11mn180 333xpg0 4a63o20 5g72qo0 49cyk0 52y85g0 47v980 58hms0 4aaak0
Asia/Kashgar <+06>-6 21020:LMT,21600:+06 1-lx5pjw 11lfpqjf
Asia/Kathmandu <+0545>-5:45 20476:LMT,19800:+0530,20700:+0545 1-q3gt4s 2yg2lus 2r5y89j
Asia/Khandyga <+09>-9
 32533:LMT,28800:+08,32400:+09,36000*+10,32400*+09,36000:+10,39600*+11,39600:+11 1-q4cjrp 25hl1jp
 3qi27w0 29et80 39d440 29et80 39d440 29et80 39eys0 29d6w0 39d1c0 29d1c0 39d1c0 29d1c0 39d1c0
 29d1c0 39d1c0 29d1c0 39d1c0 29d1c0 39d1c0 29q000 49d1c0 19d440 25reo0 33ljw0 29d1c0 39d1c0 29d1c0
 39d1c0 29d1c0 39d1c0 29d1c0 39q000 2asw00 37x6o0 2asw00 37x6o0 2asw00 37x6o0 2b5uo0 37k800 2b5uo0
 37k800 2b5uo0 37x6o0 2asw00 37x6o0 2asw00 53fx40 64h6s0 5b5uo0 67k800 5b5uo0 67k800 5b5uo0 67k800
 5b5uo0 67x6o0 5asw00 67x6o0 5asw00 67x6o0 5b5uo0 77k800 58ql00 21mlho0 2c4jojj
Asia/Kolkata IST-5:30 21208:LMT,21200:HMT,19270:MMT,19800:IST,23400*+0630 1-1oaa314 283glc8
 3isc6tm 4innm9a 3bmfw0 45lxg0 31mn180
Asia/Krasnoyarsk <+07>-7 22286:LMT,21600:+06,25200:+07,28800*+08,25200*+07,28800:+08 1-q37l72
 25gg8j2 3qi27w0 29et80 39d440 29et80 39d440 29et80 39eys0 29d6w0 39d1c0 29d1c0 39d1c0 29d1c0
 39d1c0 29d1c0 39d1c0 29d1c0 39d1c0 29d1c0 39d1c0 29q000 49d1c0 19d440 25reo0 33ljw0 29d1c0 39d1c0
 29d1c0 39d1c0 29d1c0 39d1c0 29d1c0 39q000 2asw00 37x6o0 2asw00 37x6o0 2asw00 37x6o0 2b5uo0 37k800
 2b5uo0 37k800 2b5uo0 37x6o0 2asw00 37x6o0 2asw00 37x6o0 2b5uo0 37k800 2b5uo0 37k800 2b5uo0 37k800
 2b5uo0 37x6o0 2asw00 37x6o0 2asw00 37x6o0 2b5uo0 57k800 21vbzw0 2c4jizj
Asia/Kuala_Lumpur <+08>-8
 24406:LMT,24925:SMT,25200:+07,26400*+0720,26400:+0720,27000:+0730,32400:+09,28800:+08 1-100ew5y
 22ax69l 3eeb94d 41kbr2o 52yhc00 68n3jc 51v2p60 7iy3ms0 7t93z7j
Asia/Kuching <+08>-8 26480:LMT,27000:+0730,28800:+08,30000*+0820,32400:+09 1-mvof3k 23khwxk
 31epvy0 24ohqo 3e5a9c 24ohqo 3e3flc 24ohqo 3e3flc 24ohqo 3e3flc 24ohqo 3e5a9c 24ohqo 3e3flc
 24ohqo 43ajlc 21v2qk0 21c77lzj
Asia/Kuwait <+03>-3 11516:LMT,10800:+03 1-afs0vw 119yc1vf
Asia/Macau CST-8 27250:LMT,28800:CST,32400:+09,36000*+10,32400*CDT 1-y0i2cy 2jdvyoy 36onw0 2ac580
 38fs40 27v980 111luw0 4awlc0 17vc00 4ac800 1bko00 47x6o0 19d1c0 47vc00 1asw00 47x6o0 1asw00
 47x6o0 1auqo0 488ao0 1asw00 47x6o0 1asw00 4779c0 1bitc0 4779c0 1bvs00 46uao0 1bw1q0 477c40 1biqk0
 477c40 1biqk0 477c40 1biqk0 477c40 1bvp80 46udg0 1bvp80 46udg0 1bvp80 477c40 1biqk0 477c40 1biqk0
 48n6s0 19cvs0 49d6w0 19cvs0 49d6w0 19px80 49d440 19cyk0 49d440 19cyk0 49d440 19cyk0 49d440 19cyk0
 49d440 19px80 49d440 19cyk0 43lpg0 1f4d80 49d440 19cyk0 49d440 19cyk0 41c9440 18a2k0
Asia/Magadan <+11>-11 36192:LMT,36000:+10,39600:+11,43200*+12,39600*+11,43200:+12 1-nu1nxc 237a05c
 3qi27w0 29et80 39d440 29et80 39d440 29et80 39eys0 29d6w0 39d1c0 29d1c0 39d1c0 29d1c0 39d1c0
 29d1c0 39d1c0 29d1c0 39d1c0 29d1c0 39d1c0 29q000 49d1c0 19d440 25reo0 33ljw0 29d1c0 39d1c0 29d1c0
 39d1c0 29d1c0 39d1c0 29d1c0 39q000 2asw00 37x6o0 2asw00 37x6o0 2asw00 37x6o0 2b5uo0 37k800 2b5uo0
 37k800 2b5uo0 37x6o0 2asw00 37x6o0 2asw00 37x6o0 2b5uo0 37k800 2b5uo0 37k800 2b5uo0 37k800 2b5uo0
 37x6o0 2asw00 37x6o0 2asw00 37x6o0 2b5uo0 57k800 11vbzw0 2s39k0 2bcgkjj
Asia/Makassar WITA-8 28656:LMT,28656:MMT,28800:+08,32400:+09,28800:WITA 1-q3gzg0 26p5hc0 34u87w0
 41w02k0
Asia/Manila PST-8 -57368:LMT,29032:LMT,28800:PST,32400*PDT,32400:JST 1-1t8ix2g 2sjc9ig 3je0pc0
 23wnw0 32kc5g0 42zbw0 31leo00 2dzpc0 34d3ms0 22rx80 3bwlpg0 295jw0 36lv1g0 23jp80
Asia/Muscat <+04>-4 14064:LMT,14400:+04 1-q3go6o 11pm0p67
Asia/Nicosia EET-2EEST,M3.5.0/3,M10.5.0/4 8008:LMT,7200:EET,10800*EEST 1-p4bq6g 2rvhxyg 19cyk0
 2b42s0 17nuk0 28yas0 18zzw0 29q2s0 19et80 29b9g0 19cyk0 29q2s0 18zzw0 29d440 19cyk0 29d440 19cyk0
 29d440 19cyk0 29d440 19px80 29d440 19cyk0 29d440 19cyk0 29d440 19cyk0 29d440 19cyk0 29d440 19cyk0
 29d440 19px80 29d440 19cyk0 29d440 19cyk0 29d440 19cyk0 29d440 19cyk0 29d440 19cyk0 29q2s0 19cyk0
 29d440 19cyk0 29d440 1at4c0
Asia/Novokuznetsk <+07>-7 20928:LMT,21600:+06,25200:+07,28800*+08,25200*+07 1-nu36tc 237bu5c
 3qi27w0 29et80 39d440 29et80 39d440 29et80 39eys0 29d6w0 39d1c0 29d1c0 39d1c0 29d1c0 39d1c0
 29d1c0 39d1c0 29d1c0 39d1c0 29d1c0 39d1c0 29q000 49d1c0 19d440 25reo0 33ljw0 29d1c0 39d1c0 29d1c0
 39d1c0 29d1c0 39d1c0 29d1c0 39q000 2asw00 37x6o0 2asw00 37x6o0 2asw00 37x6o0 2b5uo0 37k800 2b5uo0
 37k800 2b5uo0 37x6o0 2asw00 37x6o0 2asw00 37x6o0 2b5uo0 37k800 2b5uo0 37k800 2b5uo0 37k800 2b5uo0
 37x6o0 2asw00 37x6o0 2asw00 47x6o0 1b5xg0 27k800 2dzvg3j
Asia/Novosibirsk <+07>-7 19900:LMT,21600:+06,25200:+07,28800*+08,25200*+07 1-q4do0s 25hmbcs
 3qi27w0 29et80 39d440 29et80 39d440 29et80 39eys0 29d6w0 39d1c0 29d1c0 39d1c0 29d1c0 39d1c0
 29d1c0 39d1c0 29d1c0 39d1c0 29d1c0 39d1c0 29q000 49d1c0 19d440 25reo0 33ljw0 29d1c0 39d1c0 42vh00
 16hn40 49d1c0 19d1c0 49d1c0 19d1c0 49q000 1asw00 47x6o0 1asw00 47x6o0 1asw00 47x6o0 1b5uo0 47k800
 1b5uo0 47k800 1b5uo0 47x6o0 1asw00 47x6o0 1asw00 47x6o0 1b5uo0 47k800 1b5uo0 47k800 1b5uo0 47k800
 1b5uo0 47x6o0 1asw00 47x6o0 1asw00 47x6o0 1b5uo0 27k800 11vbzw0 2wrpg0 2b7rqrj
Asia/Omsk <+06>-6 17610:LMT,18000:+05,21600:+06,25200*+07,21600*+06,25200:+07 1-q5xmx6 25j6d16
 3qi27w0 29et80 39d440 29et80 39d440 29et80 39eys0 29d6w0 39d1c0 29d1c0 39d1c0 29d1c0 39d1c0
 29d1c0 39d1c0 29d1c0 39d1c0 29d1c0 39d1c0 29q000 49d1c0 19d440 25reo0 33ljw0 29d1c0 39d1c0 29d1c0
 39d1c0 29d1c0 39d1c0 29d1c0 39q000 2asw00 37x6o0 2asw00 37x6o0 2asw00 37x6o0 2b5uo0 37k800 2b5uo0
 37k800 2b5uo0 37x6o0 2asw00 37x6o0 2asw00 37x6o0 2b5uo0 37k800 2b5uo0 37k800 2b5uo0 37k800 2b5uo0
 37x6o0 2asw00 37x6o0 2asw00 37x6o0 2b5uo0 57k800 21vbzw0 2c4jg7j
Asia/Oral <+05>-5 12324:LMT,10800:+03,18000:+05,21600*+06,21600:+06,18000*+05,14400:+04 1-nu15ic
 237a16c 3qi2540 49et80 39d1c0 29ew00 39d440 29et80 39eys0 29d6w0 39d1c0 29d1c0 39d1c0 29d1c0
 39d1c0 29d1c0 39d1c0 29d1c0 59d1c0 69d440 59d1c0 69q000 59d1c0 69d1c0 25reo0 53ljw0 69d440 59d1c0
 69d1c0 59d1c0 69d1c0 59d1c0 69d1c0 59q000 6asw00 57x6o0 6asw00 57x6o0 6asw00 57x6o0 6b5uo0 57k800
 6b5uo0 57k800 6b5uo0 57x6o0 6asw00 57x6o0 6asw00 57x6o0 2b5uo0 2hc4x7j
Asia/Phnom_Penh <+07>-7 25180:LMT,25590:PLMT,25200:+07,28800:+08,32400:+09 1-x568rg 22isicm
 3gj25iu 415ct80 28so00 21c7q4nj
Asia/Pontianak WIB-7 26240:LMT,26240:PMT,27000:+0730,32400:+09,28800:+08,28800:WITA,25200:WIB
 1-w6piww 2cse2o0 34tnu2w 21wkei0 41cx860 211jta0 574uc20 6cixam0
Asia/Pyongyang KST-9 30180:LMT,30600:KST,32400:JST,32400:KST 1-w895yc 21yh10c 3hk5da0 110ipmo0
 31f4qo0
Asia/Qatar <+03>-3 12368:LMT,14400:+04,10800:+03 1-q3gmvk 2rctnrk 2y9703j
Asia/Qostanay <+05>-5 15268:LMT,14400:+04,18000:+05,21600*+06,21600:+06,18000*+05 1-nu17s4 237a0o4
 3qi27w0 49et80 39d1c0 29ew00 39d440 29et80 39eys0 29d6w0 39d1c0 29d1c0 39d1c0 29d1c0 39d1c0
 29d1c0 39d1c0 29d1c0 39d1c0 29d1c0 39d1c0 29q000 59d1c0 19d440 25reo0 33ljw0 29d1c0 39d1c0 29d1c0
 39d1c0 29d1c0 39d1c0 29d1c0 39q000 2asw00 37x6o0 2asw00 37x6o0 2asw00 37x6o0 2b5uo0 37k800 2b5uo0
 37k800 2b5uo0 37x6o0 2asw00 37x6o0 2asw00 37x6o0 4b5uo0 2a37p00 278xazj
Asia/Qyzylorda <+05>-5 15712:LMT,14400:+04,18000:+05,21600*+06,21600:+06,18000*+05 1-nu184g
 237a10g 3qi27w0 49et80 39d1c0 29ew00 39d440 29et80 39eys0 29d6w0 39d1c0 29d1c0 39d1c0 29d1c0
 39d1c0 29d1c0 39d1c0 29d1c0 39d1c0 29d1c0 39d1c0 29q000 59d1c0 29d440 45rbw0 33ljw0 29d440 39d1c0
 29d1c0 39d1c0 29d1c0 39d1c0 29d1c0 39q000 2asw00 37x6o0 2asw00 37x6o0 2asw00 37x6o0 2b5uo0 37k800
 2b5uo0 37k800 2b5uo0 37x6o0 2asw00 37x6o0 2asw00 37x6o0 4b5uo0 27dmqc0 29yi9nj
Asia/Riyadh <+03>-3 11212:LMT,10800:+03 1-bwgbbg 11bf0caz
Asia/Sakhalin <+11>-11 34248:LMT,32400:+09,39600:+11,43200*+12,39600*+11,36000:+10 1-xl87rc
 2kvnarc 3ikvh40 29et80 39d440 29et80 39d440 29et80 39eys0 29d6w0 39d1c0 29d1c0 39d1c0 29d1c0
 39d1c0 29d1c0 39d1c0 29d1c0 39d1c0 29d1c0 39d1c0 29q000 49d1c0 59d440 25reo0 33ljw0 29d1c0 39d1c0
 29d1c0 39d1c0 29d1c0 39d1c0 29d1c0 39q000 2asw00 47x6o0 5asys0 47x6o0 5asw00 47x6o0 5b5uo0 47k800
 5b5uo0 47k800 5b5uo0 47x6o0 5asw00 47x6o0 5asw00 47x6o0 5b5uo0 47k800 5b5uo0 47k800 5b5uo0 47k800
 5b5uo0 47x6o0 5asw00 47x6o0 5asw00 47x6o0 5b5uo0 27k800 51vbzw0 2qnc40 2bdwf7j
Asia/Samarkand <+05>-5 16073:LMT,14400:+04,18000:+05,21600*+06,21600:+06 1-nu18eh 237a1ah 3qi27w0
 49et80 39d1c0 29ew00 39d440 29et80 39eys0 29d6w0 39d1c0 29d1c0 39d1c0 29d1c0 39d1c0 29d1c0 39d1c0
 29d1c0 39d1c0 29d1c0 39d1c0 29q000 39d1c0 29d1c0 2o62pbj
Asia/Seoul KST-9 30472:LMT,30600:KST,32400:JST,32400:KST,36000*KDT,34200*KDT 1-w8966g 21yh18g
 3hkx5a0 41faao0 35cik0 4ae5g0 38a2k0 4ae5g0 38bx80 4c8tg0 36h980 11bj6s0 5l3aq0 16j3w0 5d2g40
 16u7w0 5b5xg0 1776k0 5biw40 1776k0 5biw40 1776k0 5biw40 1776k0 3grs40 4dfqxi0 37x6o0 4asw00
 37x6o0
Asia/Singapore <+08>-8
 24925:LMT,24925:SMT,25200:+07,26400*+0720,26400:+0720,27000:+0730,32400:+09,28800:+08 1-100ewkd
 22ax6o0 3eeb94d 41kbr2o 52yhc00 68n3jc 51v2p60 7iy3ms0 7t93z7j
Asia/Srednekolymsk <+11>-11 36892:LMT,36000:+10,39600:+11,43200*+12,39600*+11,43200:+12 1-nu1ogs
 237a0os 3qi27w0 29et80 39d440 29et80 39d440 29et80 39eys0 29d6w0 39d1c0 29d1c0 39d1c0 29d1c0
 39d1c0 29d1c0 39d1c0 29d1c0 39d1c0 29d1c0 39d1c0 29q000 49d1c0 19d440 25reo0 33ljw0 29d1c0 39d1c0
 29d1c0 39d1c0 29d1c0 39d1c0 29d1c0 39q000 2asw00 37x6o0 2asw00 37x6o0 2asw00 37x6o0 2b5uo0 37k800
 2b5uo0 37k800 2b5uo0 37x6o0 2asw00 37x6o0 2asw00 37x6o0 2b5uo0 37k800 2b5uo0 37k800 2b5uo0 37k800
 2b5uo0 37x6o0 2asw00 37x6o0 2asw00 37x6o0 2b5uo0 57k800 21vbzw0 2c4ju3j
Asia/Taipei CST-8 29160:LMT,28800:CST,32400:JST,32400*CDT 1-12mch60 2lsd1m0 145slc0 3c51c0 175bw0
 3a31g0 1aaak0 39d440 17v980 3awo40 17v980 3awo40 17v980 3awo40 17v980 37tk40 1clmk0 37rpg0 1b07w0
 37rpg0 1b07w0 37rpg0 19et80 39eys0 19et80 39d440 19et80 39d440 19et80 39d440 19et80 3cjxg0 169uk0
 3ci2s0 169uk0 36its40 19et80 39d440 19et80 31yf9g0 14qak0
Asia/Tashkent <+05>-5 16631:LMT,18000:+05,21600:+06,25200*+07,21600*+06 1-nu18tz 2379yxz 3qi27w0
 29et80 39d440 29et80 39d440 29et80 39eys0 29d6w0 39d1c0 29d1c0 39d1c0 29d1c0 39d1c0 29d1c0 39d1c0
 29d1c0 39d1c0 29d1c0 39d1c0 29q000 49d1c0 19d440 1o62pbj
Asia/Tbilisi <+04>-4 10751:LMT,10751:TBMT,10800:+03,14400:+04,18000*+05,14400*+04 1-1ayyayn
 2n4x6o0 3h4tjyn 4ckinw0 39et80 49d440 39et80 49d440 39et80 49eys0 39d6w0 49d1c0 39d1c0 49d1c0
 39d1c0 49d1c0 39d1c0 49d1c0 39d1c0 49d1c0 39d1c0 49d1c0 39q000 59d1c0 29d440 59cvs0 29cyk0 59d440
 29cyk0 59d440 39cyk0 49d1c0 39cyk0 49q2s0 4ipzw0 3asw00 47x9g0 3ast80 47x9g0 3b5rw0 47kas0 3b5rw0
 47kas0 3b5rw0 47x9g0 3ast80 47x9g0 3ast80 47x9g0 54ofw0 26hn40 37k800 3h4kmfj
Asia/Tehran <+0330>-3:30 12344:LMT,12344:TMT,12600:+0330,16200*+0430,14400:+04,18000*+05 1-s6m6uw
 2a5dpc0 3lsvh0w 4ayg00 57z2q0 46uao0 251hc0 3a4uq0 25wvw0 39gtg0 29kd80 35ja5g0 27avw0 39d440
 29gnw0 39b9g0 29gnw0 39b9g0 29gnw0 39b9g0 29gnw0 39b9g0 29gnw0 39d440 29gnw0 39b9g0 29gnw0 39b9g0
 29gnw0 39b9g0 29gnw0 39d440 29gnw0 39b9g0 29gnw0 39b9g0 29gnw0 39b9g0 29gnw0 39d440 29gnw0
 31av440 29gnw0 39d440 29gnw0 39b9g0 29gnw0 39b9g0 29gnw0 39b9g0 29gnw0 39d440 29gnw0 39b9g0
 29gnw0 39b9g0 29gnw0 39b9g0 29gnw0 39d440 29gnw0 39b9g0 29gnw0 39b9g0 29gnw0 39b9g0 29gnw0 39d440
 29gnw0 39b9g0 29gnw0 27zz9hj
Asia/Thimphu <+06>-6 21516:LMT,19800:+0530,21600:+06 1-bojclo 2kxymno 2q94qxj
Asia/Tokyo JST-9 33539:LMT,32400:JST,36000*JDT 1-16snno0 2vhjeo0 16uao0 2afxc0 18a5c0 2c8qo0
 16hc00 2c8qo0 16hc00
Asia/Tomsk <+07>-7 20391:LMT,21600:+06,25200:+07,28800*+08,25200*+07 1-q3zbqf 25h7z2f 3qi27w0
 29et80 39d440 29et80 39d440 29et80 39eys0 29d6w0 39d1c0 29d1c0 39d1c0 29d1c0 39d1c0 29d1c0 39d1c0
 29d1c0 39d1c0 29d1c0 39d1c0 29q000 49d1c0 19d440 25reo0 33ljw0 29d1c0 39d1c0 29d1c0 39d1c0 29d1c0
 39d1c0 29d1c0 39q000 2asw00 37x6o0 2asw00 37x6o0 2asw00 37x6o0 2b5uo0 37k800 2b5uo0 37k800 2b5uo0
 37x6o0 41leo0 197k40 47x6o0 1asw00 47x6o0 1b5uo0 47k800 1b5uo0 47k800 1b5uo0 47k800 1b5uo0 47x6o0
 1asw00 47x6o0 1asw00 47x6o0 1b5uo0 27k800 11vbzw0 2tw040 2bang3j
Asia/Ust-Nera <+10>-10
 34374:LMT,28800:+08,32400:+09,43200*+12,39600:+11,39600*+11,36000:+10,43200:+12 1-q4cl6u 25hl2yu
 3qi27w0 49eno0 39d440 49et80 39d440 49et80 39eys0 49d6w0 39d1c0 49d1c0 39d1c0 49d1c0 39d1c0
 49d1c0 39d1c0 49d1c0 39d1c0 49d1c0 39d1c0 49q000 59d1c0 69d440 45reo0 33ljw0 49d1c0 39d1c0 49d1c0
 39d1c0 49d1c0 39d1c0 49d1c0 39q000 4asw00 37x6o0 4asw00 37x6o0 4asw00 37x6o0 4b5uo0 37k800 4b5uo0
 37k800 4b5uo0 37x6o0 4asw00 37x6o0 4asw00 37x6o0 4b5uo0 37k800 4b5uo0 37k800 4b5uo0 37k800 4b5uo0
 37x6o0 4asw00 37x6o0 4asw00 37x6o0 4b5uo0 77k800 48ql00 61mlho0 6c4jrbj
Asia/Vientiane <+07>-7 24624:LMT,25590:PLMT,25200:+07,28800:+08,32400:+09 1-x568c0 22ishx6 3gj25iu
 415ct80 28so00 3tmtk0 2470yk0 21772cjj
Asia/Vladivostok <+10>-10 31651:LMT,32400:+09,36000:+10,39600*+11,36000*+10,39600:+11 1-oligf7
 23yqvf7 3qi27w0 29et80 39d440 29et80 39d440 29et80 39eys0 29d6w0 39d1c0 29d1c0 39d1c0 29d1c0
 39d1c0 29d1c0 39d1c0 29d1c0 39d1c0 29d1c0 39d1c0 29q000 49d1c0 19d440 25reo0 33ljw0 29d1c0 39d1c0
 29d1c0 39d1c0 29d1c0 39d1c0 29d1c0 39q000 2asw00 37x6o0 2asw00 37x6o0 2asw00 37x6o0 2b5uo0 37k800
 2b5uo0 37k800 2b5uo0 37x6o0 2asw00 37x6o0 2asw00 37x6o0 2b5uo0 37k800 2b5uo0 37k800 2b5uo0 37k800
 2b5uo0 37x6o0 2asw00 37x6o0 2asw00 37x6o0 2b5uo0 57k800 21vbzw0 2c4jrbj
Asia/Yakutsk <+09>-9 31138:LMT,28800:+08,32400:+09,36000*+10,32400*+09,36000:+10 1-q4cioy 25hl0gy
 3qi27w0 29et80 39d440 29et80 39d440 29et80 39eys0 29d6w0 39d1c0 29d1c0 39d1c0 29d1c0 39d1c0
 29d1c0 39d1c0 29d1c0 39d1c0 29d1c0 39d1c0 29q000 49d1c0 19d440 25reo0 33ljw0 29d1c0 39d1c0 29d1c0
 39d1c0 29d1c0 39d1c0 29d1c0 39q000 2asw00 37x6o0 2asw00 37x6o0 2asw00 37x6o0 2b5uo0 37k800 2b5uo0
 37k800 2b5uo0 37x6o0 2asw00 37x6o0 2asw00 37x6o0 2b5uo0 37k800 2b5uo0 37k800 2b5uo0 37k800 2b5uo0
 37x6o0 2asw00 37x6o0 2asw00 37x6o0 2b5uo0 57k800 21vbzw0 2c4jojj
Asia/Yangon <+0630>-6:30 23087:LMT,23087:RMT,23400:+0630,32400:+09 1-1ayykhb 2kvhpc0 3bnjp3b
 21kh520 21ce01zj
Asia/Yekaterinburg <+05>-5 14553:LMT,13505:PMT,14400:+04,18000:+05,21600*+06,18000*+05,21600:+06
 1-rx5hw9 21kybx4 35pfyv5 4qi27w0 39et80 49d440 39et80 49d440 39et80 49eys0 39d6w0 49d1c0 39d1c0
 49d1c0 39d1c0 49d1c0 39d1c0 49d1c0 39d1c0 49d1c0 39d1c0 49d1c0 39q000 59d1c0 29d440 35reo0 43ljw0
 39d1c0 49d1c0 39d1c0 49d1c0 39d1c0 49d1c0 39d1c0 49q000 3asw00 47x6o0 3asw00 47x6o0 3asw00 47x6o0
 3b5uo0 47k800 3b5uo0 47k800 3b5uo0 47x6o0 3asw00 47x6o0 3asw00 47x6o0 3b5uo0 47k800 3b5uo0 47k800
 3b5uo0 47k800 3b5uo0 47x6o0 3asw00 47x6o0 3asw00 47x6o0 3b5uo0 67k800 31vbzw0 3c4jdfj
Asia/Yerevan <+04>-4 10680:LMT,10800:+03,14400:+04,18000*+05,14400*+04 1-nu148o 2h4tjwo 3ckinw0
 29et80 39d440 29et80 39d440 29et80 39eys0 29d6w0 39d1c0 29d1c0 39d1c0 29d1c0 39d1c0 29d1c0 39d1c0
 29d1c0 39d1c0 29d1c0 39d1c0 29q000 49d1c0 19d440 49d1c0 19d1c0 49d1c0 19d1c0 49d1c0 19d1c0 49d1c0
 29d1c0 3sfzw0 2asw00 37x6o0 2asw00 37x6o0 2b5uo0 37k800 2b5uo0 37k800 2b5uo0 37x6o0 2asw00 37x6o0
 2asw00 37x6o0 2b5uo0 37k800 2b5uo0 37k800 2b5uo0 37k800 2b5uo0 37x6o0 2asw00 37x6o0 2asw00 37x6o0
 2b5uo0 37k800 2b5uo0 2dopfvj
Atlantic/Azores <-01>1<+00>,M3.5.0/0,M10.5.0/1
 -6160:LMT,-6872:HMT,-7200:-02,-3600*-01,0*+00,-3600:-01,0:WET,3600*WEST 1-18vsdww 2em124w 32bufw0
 26zxg0 366800 2bq580 371s40 2bq580 371s40 2bq580 373ms0 2bq580 371s40 2bq580 31b2g00 28so00
 3st1c0 28n400 39q000 2902o0 3a2yo0 2902o0 3a2yo0 28n400 3st1c0 28n400 39d1c0 29d1c0 3sg2o0 29d1c0
 3902o0 29q000 3a2yo0 28n400 39d1c0 29d1c0 3902o0 29q000 3a2yo0 2b5uo0 351hc0 2bmio0 399c00 29ew00
 388ao0 425p80 35reo0 23lpg0 3779c0 41sqk0 36uao0 238qs0 36uao0 425p80 36hc00 238qs0 36uao0 425p80
 36hc00 238qs0 38a5c0 29d1c0 39d9o0 29d1c0 39d1c0 29d1c0 39d1c0 29d1c0 39d1c0 29d1c0 39d1c0 29q000
 39d1c0 29d1c0 39d1c0 29d1c0 39d1c0 29d1c0 39d1c0 29d1c0 39d1c0 29q000 39d1c0 29d1c0 39d1c0 29d1c0
 39d1c0 29d1c0 39d1c0 29d1c0 39d1c0 29d1c0 39d1c0 29q000 39d1c0 29d1c0 39d1c0 29d1c0 39d1c0 29d1c0
 39d1c0 59d1c0 482xuc0 59d1c0 49d1c0 59d1c0 49d1c0 59q000 49d1c0 59d1c0 49d1c0 59d1c0 49d1c0
 59d1c0 49d1c0 59d1c0 49d1c0 59d1c0 49d1c0 59q000 49d1c0 59d1c0 49d1c0 59d1c0 64olg0 74ofw0 446000
 5571c0 49d1c0 59d1c0 49d1c0 59d1c0 49q000 5asw00 47x6o0 5asw00 47x6o0 5asw00 47x6o0 5b5uo0 47k800
 5b5uo0 47k800 5b5uo0 47x6o0 5asw00 47x6o0 5asw00 47x6o0 5b5uo0 47k800 5b5uo0 47k800 5b5uo0 47k800
 5b5uo0 47x6o0 5asw00 47x6o0 5asw00 47x6o0 5b5uo0 47k800 5b5uo0 47k800 5b5uo0 47x6o0 5asw00 47x6o0
 5asw00 47x6o0 5asw00 47x6o0 5b5uo0 47k800 5b5uo0 47k800 5b5uo0 47x6o0 5asw00 47x6o0 5asw00 47x6o0
 5b5uo0 47k800 5b5uo0 47k800 5b5uo0 47x6o0 5asw00 47x6o0 5asw00 47x6o0 5asw00 47x6o0 5b5uo0 47k800
 5b5uo0 47k800 5b5uo0 47x6o0 5asw00 47x6o0 5asw00 47x6o0 5b5uo0 47k800 5b5uo0 47k800 5b5uo0 47k800
 5b5uo0 47x6o0 5asw00 47x6o0 5asw00 54ffjj
Atlantic/Bermuda AST4ADT,M3.2.0,M11.1.0 -15558:LMT,-15558:BMT,-11958*BST,-14400:AST,-10800*ADT
 1-15r0xbu 2e851c0 195jw0 2a16s0 17yyk0 35w74c0 469z5ru 3eefw0 47x9g0 3biqk0 46udg0 3c8nw0 46hes0
 3c8nw0 4st440 364ak0 4cyqs0 35ed80 4dbpg0 35ed80 4doo40 351ek0 4doo40 351ek0 4doo40 35ed80
 41xuw40 37x3w0 494r9g0 39cyk0 49d440 39cyk0 49d440 39px80 4905g0 39px80 49d440 39cyk0 49d440
 39cyk0 49d440 39cyk0 49d440 39cyk0 49d440 39px80 4905g0 39px80 49d440 39cyk0 49d440 39cyk0 49d440
 39cyk0 48a840 3afuk0 48a840 3ast80 47x9g0 3ast80 47x9g0 3ast80 48a840 3afuk0 48a840 3afuk0 48a840
 3ast80 47x9g0 3ast80 47x9g0 3ast80 48a840 3afuk0 48a840 3afuk0 48a840 3afuk0 48a840 3ast80 47x9g0
 3ast80 47x9g0 3ast80 48a840 3afuk0 48a840 3afuk0 48a840 3ast80 47x9g0 3ast80 47x9g0 3ast80 46udg0
Atlantic/Canary WET0WEST,M3.5.0/1,M10.5.0 -3696:LMT,-3600:-01,0:WET,3600*WEST 1-oytbtc 2ctvupc
 3hhq7s0 2905g0 39d1c0 29d1c0 39d1c0 29d1c0 39d1c0 29d1c0 39d1c0 29q000 39d1c0 29d1c0 39d1c0
 29d1c0 39d1c0 29d1c0 39d1c0 29d1c0 39d1c0 29d1c0 39d1c0 29q000 39d1c0 29d1c0 39d1c0 29d1c0 39d1c0
 29d1c0 39d1c0 29d1c0 39d1c0 29d1c0 39q000
Atlantic/Cape_Verde <-01>1 -5644:LMT,-7200:-02,-3600*-01,-3600:-01 1-u9rbs0 2g06lc0 11mn180
 3fpqwc0 3wfqtvj
Atlantic/Faroe WET0WEST,M3.5.0/1,M10.5.0 -1624:LMT,0:WET,3600*WEST 1-wcehew 2127keuw 19d1c0 29d1c0
 19d1c0 29d1c0 19d1c0 29d1c0 19q000 29d1c0 19d1c0 29d1c0 19d1c0 29d1c0 19d1c0 29d1c0 19d1c0 29d1c0
 19d1c0 29d1c0 19q000 29d1c0 19d1c0 29d1c0 19d1c0 29d1c0 19d1c0 29d1c0 19d1c0 29d1c0 19d1c0 29q000
Atlantic/Madeira WET0WEST,M3.5.0/1,M10.5.0
 -4056:LMT,-4056:FMT,-3600:-01,0*+00,3600*+01,0:WET,3600*WEST 1-18vsfjc 2em10zc 32bufw0 26zxg0
 366800 2bq580 371s40 2bq580 371s40 2bq580 373ms0 2bq580 371s40 2bq580 31b2g00 28so00 3st1c0
 28n400 39q000 2902o0 3a2yo0 2902o0 3a2yo0 28n400 3st1c0 28n400 39d1c0 29d1c0 3sg2o0 29d1c0 3902o0
 29q000 3a2yo0 28n400 39d1c0 29d1c0 3902o0 29q000 3a2yo0 2b5uo0 351hc0 2bmio0 399c00 29ew00 388ao0
 425p80 35reo0 23lpg0 3779c0 41sqk0 36uao0 238qs0 36uao0 425p80 36hc00 238qs0 36uao0 425p80 36hc00
 238qs0 38a5c0 29d1c0 39d9o0 29d1c0 39d1c0 29d1c0 39d1c0 29d1c0 39d1c0 29d1c0 39d1c0 29q000 39d1c0
 29d1c0 39d1c0 29d1c0 39d1c0 29d1c0 39d1c0 29d1c0 39d1c0 29q000 39d1c0 29d1c0 39d1c0 29d1c0 39d1c0
 29d1c0 39d1c0 29d1c0 39d1c0 29d1c0 39d1c0 29q000 39d1c0 29d1c0 39d1c0 29d1c0 39d1c0 29d1c0 39d1c0
 59d1c0 683at00 5902o0 69d1c0 59d1c0 69d1c0 59q000 69d1c0 59d1c0 69d1c0 59d440 69d1c0 59d1c0
 69d1c0 59d1c0 69d1c0 59d1c0 69d1c0 59q000 69d1c0 59d1c0 69d1c0 59d1c0 69d1c0 59d1c0 69d1c0 59d1c0
 69d1c0 59d1c0 69q000
Atlantic/Reykjavik GMT0 -5280:LMT,-3600:-01,0*+00,0:GMT 1-wcwx9c 24rpd9c 1ci2s0 269uk0 1du840
 24xp80 1du840 2p7bw0 14w040 29bdzw0 19d6w0 264g40 1cyl80 264dc0 1clpc0 26hc00 1bvs00 26uao0
 1bvs00 26uao0 1bvs00 26uao0 1c8qo0 26hc00 1c8qo0 28a5c0 1afxc0 28a5c0 1afxc0 28a5c0 1asw00 27x6o0
 1afxc0 28a5c0 1asw00 28a5c0 1afxc0 28a5c0 1afxc0 28a5c0 1afxc0 28a5c0 1afxc0 28a5c0 1asw00 28a5c0
 1afxc0 28a5c0 1afxc0 28a5c0 1afxc0 28a5c0 1afxc0 28a5c0 1afxc0 28a5c0 1asw00 28a5c0 1afxc0 28a5c0
 1afxc0 28a5c0 1afxc0 28a5c0 1afxc0 28a5c0 1asw00 38a5c0
Atlantic/South_Georgia <-02>2 -8768:LMT,-7200:-02 1-15r12kg 1259l3jz
Atlantic/St_Helena GMT0 -1368:LMT,-1368:JMT,0:GMT 1-15r18a0 2vu1eo0
Atlantic/Stanley <-03>3 -13884:LMT,-13884:SMT,-14400:-04,-10800*-03,-10800:-03,-7200*-02 1-15r0ymc
 2bkx9c0 3dbvxqc 28zzw0 39q2s0 28zzw0 3a31g0 28zzw0 39q2s0 28zzw0 39q2s0 28zzw0 39q2s0 24xp80
 4l1pus0 57k580 4b5rw0 577c40 4biqk0 377c40 2b5uo0 37kas0 2b5rw0 37kas0 2b5rw0 37kas0 2b5rw0
 37kas0 2biqk0 377c40 2biqk0 37kas0 2b5rw0 37kas0 2b5rw0 37kas0 2b5rw0 37kas0 2b5rw0 37kas0 2biqk0
 37kas0 2b5rw0 37kas0 2b5rw0 37kas0 2b5rw0 37kas0 2b5rw0 37kas0 2b5xg0 377c40 2bvp80 36udg0 2bvp80
 377c40 2biqk0 377c40 2biqk0 377c40 2biqk0 377c40 2biqk0 377c40 2bvp80 377c40 2biqk0 377c40 2biqk0
 477c40 4eaalnj
Australia/Adelaide ACST-9:30ACDT,M10.1.0,M4.1.0/3 33260:LMT,32400:ACST,34200:ACST,37800*ACDT
 1-133j2zw 227qdzw 397zyu0 249pc0 3cxfk00 24h400 39d1c0 29d1c0 39q000 2902o0 3eeio00 264dc0 3clpc0
 26hc00 3c8qo0 26hc00 3c8qo0 26hc00 3c8qo0 26uao0 3c8qo0 26hc00 3c8qo0 26hc00 3c8qo0 26hc00 3c8qo0
 26hc00 3c8qo0 26hc00 3c8qo0 26uao0 3c8qo0 26hc00 3c8qo0 26hc00 3c8qo0 26hc00 3c8qo0 2779c0 3b5uo0
 27k800 3bitc0 27k800 3bitc0 2779c0 3bitc0 2779c0 3bitc0 26hc00 3c8qo0 27k800 3b5uo0 26uao0 3c8qo0
 2779c0 3bitc0 27k800 3b5uo0 27x6o0 3asw00 27x6o0 3asw00 27x6o0 3asw00 27x6o0 3b5uo0 27k800 3b5uo0
 27k800 3b5uo0 27x6o0 3asw00 27x6o0 3asw00 27x6o0 3b5uo0 27k800 3b5uo0 27x6o0 3asw00 27k800 3b5uo0
 28a5c0
Australia/Brisbane AEST-10 36728:LMT,36000:AEST,39600*AEDT 1-1354kc8 2bhbss8 149pc0 2cxfk00 14h400
 29d1c0 19d1c0 29q000 1902o0 2eeio00 164dc0 297zuo0 16hc00 2c8qo0 16hc00 2c8qo0 16hc00
Australia/Broken_Hill ACST-9:30ACDT,M10.1.0,M4.1.0/3
 33948:LMT,36000:AEST,32400:ACST,34200:ACST,37800*ACDT 1-133j3j0 2t9nr0 31egqs0 497zyu0 349pc0
 4cxfk00 34h400 49d1c0 39d1c0 49q000 3902o0 4eeio00 364dc0 4clpc0 36hc00 4c8qo0 36hc00 4c8qo0
 36hc00 4c8qo0 36uao0 4c8qo0 36hc00 4c8qo0 36hc00 4c8qo0 36hc00 4c8qo0 36hc00 4c8qo0 36hc00 4c8qo0
 38a5c0 4asw00 36hc00 4c8qo0 36hc00 4c8qo0 36hc00 4c8qo0 3779c0 4b5uo0 37k800 4bitc0 37k800 4bitc0
 3779c0 4bitc0 36hc00 4c8qo0 36hc00 4c8qo0 36hc00 4c8qo0 36uao0 4c8qo0 36hc00 4c8qo0 36hc00 4c8qo0
 37x6o0 4asw00 37x6o0 4asw00 37x6o0 4asw00 37x6o0 4b5uo0 37k800 4b5uo0 37k800 4b5uo0 37x6o0 4asw00
 37x6o0 4asw00 37x6o0 4b5uo0 37k800 4b5uo0 37x6o0 4asw00 37k800 4b5uo0 38a5c0
Australia/Canberra AEST-10AEDT,M10.1.0,M4.1.0/3 36292:LMT,36000:AEST,39600*AEDT 1-133j5c4 2bfqds4
 149pc0 2cxfk00 14h400 29d1c0 19d1c0 29q000 1902o0 2eeio00 164dc0 2clpc0 16hc00 2c8qo0 16hc00
 2c8qo0 16hc00 2c8qo0 16uao0 2c8qo0 16hc00 2c8qo0 16hc00 2c8qo0 16hc00 2c8qo0 16hc00 2c8qo0 16hc00
 2c8qo0 18a5c0 2asw00 16hc00 2c8qo0 16hc00 2c8qo0 16hc00 2c8qo0 1779c0 2b5uo0 17k800 2bitc0 17k800
 2bitc0 1779c0 2bitc0 16hc00 2c8qo0 16hc00 2c8qo0 16hc00 2c8qo0 16uao0 2c8qo0 16hc00 2c8qo0 16hc00
 2c8qo0 17x6o0 2asw00 17x6o0 2asw00 17x6o0 2asw00 17x6o0 2b5uo0 17k800 27x6o0 1asw00 2b5uo0 17x6o0
 2asw00 17x6o0 2asw00 17x6o0 2b5uo0 17k800 2b5uo0 17x6o0 2asw00 17k800 2b5uo0 18a5c0
Australia/Currie AEST-10AEDT,M10.1.0,M4.1.0/3 35356:LMT,36000:AEST,39600*AEDT 1-12smja4 2b03ee4
 1902o0 2b5uo0 16hc00 2c8qo0 16hc00 2bx2ao0 14h400 29d1c0 19d1c0 29q000 1902o0 2c9tk00 19d1c0
 2asw00 16uao0 2bvs00 16uao0 2bvs00 1779c0 2bvs00 164dc0 2clpc0 16hc00 2c8qo0 16hc00 2c8qo0 16hc00
 2c8qo0 16uao0 2c8qo0 16hc00 2c8qo0 16hc00 2c8qo0 16hc00 2c8qo0 16hc00 2c8qo0 16hc00 2c8qo0 17x6o0
 2b5uo0 17k800 2b5uo0 16hc00 2c8qo0 16hc00 2c8qo0 16hc00 2bvs00 17k800 2bitc0 17k800 2bitc0 1779c0
 2bitc0 1779c0 2bitc0 17x6o0 29q000 1902o0 29q000 1902o0 29q000 1902o0 29q000 1902o0 29q000 19d1c0
 29q000 1902o0 29q000 1902o0 29q000 1902o0 29q000 1902o0 27x6o0 1asw00 2a2yo0 1902o0 29q000 1902o0
 29q000 1902o0 29q000 1902o0 29q000 19d1c0 29d1c0 1902o0 2a2yo0
Australia/Darwin ACST-9:30 31400:LMT,32400:ACST,34200:ACST,37800*ACDT 1-133j1k8 227qck8 397zyu0
 249pc0 3cxfk00 24h400 39d1c0 29d1c0 39q000 2902o0
Australia/Eucla <+0845>-8:45 30928:LMT,31500:+0845,35100*+0945 1-12nxx74 2b05944 149pc0 2cxfk00
 14h400 29d1c0 19d1c0 2gheyo0 16hc00 24ir9c0 16hc00 240r400 15eg00 27p9hc0 15reo0 2b5uo0 17x6o0
 2asw00 17x6o0 1f1bt2j
Australia/Lindeman AEST-10 35756:LMT,36000:AEST,39600*AEDT 1-1354jl8 2bhbs18 149pc0 2cxfk00 14h400
 29d1c0 19d1c0 29q000 1902o0 2eeio00 164dc0 297zuo0 16hc00 2c8qo0 16hc00 2c8qo0 16hc00 2c8qo0
 16uao0 2c8qo0 16hc00
Australia/Lord_Howe <+1030>-10:30<+11>-11,M10.1.0,M4.1.0
 38180:LMT,36000:AEST,37800:+1030,41400*+1130,39600*+11 1-133j6sk 218x8f0k 3c8uu0 26u7w0 3c8tg0
 26h980 3c8tg0 26h980 3c8tg0 26h980 4c8tg0 2777y0 4b5w20 27k6m0 4biuq0 27k6m0 4biuq0 2777y0 4biuq0
 26ham0 4c8s20 26ham0 4c8s20 26ham0 4c8s20 26u9a0 4c8s20 26ham0 4c8s20 26ham0 4c8s20 27x5a0 4asxe0
 27x5a0 4asxe0 27x5a0 4asxe0 27x5a0 4b5w20 27k6m0 47x820 2asum0 4b5w20 27x5a0 4asxe0 27x5a0 4asxe0
 27x5a0 4b5w20 27k6m0 4b5w20 27x5a0 4asxe0 27k6m0 4b5w20 28a3y0 49d2q0 29czy0 49d2q0 29czy0 49d2q0
 29czy0 49d2q0 29czy0 49q1e0 29czy0 49d2q0 29czy0 49d2q0 29czy0 49d2q0 29czy0 49d2q0 29czy0 49d2q0
 29czy0 49q1e0 29czy0 49d2q0 29czy0 49d2q0 29czy0 49d2q0 29czy0 49d2q0 29czy0 49d2q0 29pym0 49d2q0
 29czy0 49d2q0 29czy0 49d2q0 29czy0 49d2q0 29czy0 49d2q0 29czy0 49q1e0 29czy0 49d2q0 29czy0 49d2q0
 29czy0 49d2q0 29czy0 49d2q0 29czy0 49d2q0 29czy0 49q1e0 29czy0 49d2q0 29czy0 49d2q0 45j1xj
Australia/Melbourne AEST-10AEDT,M10.1.0,M4.1.0/3 34792:LMT,36000:AEST,39600*AEDT 1-133j46g 2bfqcmg
 149pc0 2cxfk00 14h400 29d1c0 19d1c0 29q000 1902o0 2eeio00 164dc0 2clpc0 16hc00 2c8qo0 16hc00
 2c8qo0 16hc00 2c8qo0 16uao0 2c8qo0 16hc00 2c8qo0 16hc00 2c8qo0 16hc00 2c8qo0 16hc00 2c8qo0 16hc00
 2c8qo0 16uao0 2c8qo0 16hc00 2c8qo0 16hc00 2c8qo0 16hc00 2c8qo0 1779c0 2b5uo0 17k800 2b5uo0 17x6o0
 2bitc0 1779c0 2bitc0 1779c0 2bitc0 16hc00 2c8qo0 16hc00 2c8qo0 16uao0 2c8qo0 16hc00 2c8qo0 17k800
 2b5uo0 17x6o0 2asw00 17x6o0 2asw00 17x6o0 2asw00 17x6o0 2b5uo0 17k800 27x6o0 1asw00 2b5uo0 17x6o0
 2asw00 17x6o0 2asw00 17x6o0 2b5uo0 17k800 2b5uo0 17x6o0 2asw00 17k800 2b5uo0 18a5c0
Australia/Perth AWST-8 27804:LMT,28800:AWST,32400*AWDT 1-12nxusc 2b058sc 149pc0 2cxfk00 14h400
 29d1c0 19d1c0 2gheyo0 16hc00 24ir9c0 16hc00 240r400 15eg00 27p9hc0 15reo0 2b5uo0 17x6o0 2asw00
 17x6o0
CET CET-1CEST,M3.5.0,M10.5.0/3 3600:CET,7200*CEST 1-s0e080 07ves0 1a4yw0 07x6o0 1asw00 07x6o0
 1b8qdc0 01cm000 17k800 09q000 19d1c0 09d1c0 19d1c0 08l9c0 1ggp1c0 0902o0 19q000 09d1c0 19d1c0
 09d1c0 19q000 0902o0 19d1c0 09d1c0 19d1c0 09d1c0 19d1c0 09d1c0 19d1c0 09q000 19d1c0 09d1c0 19d1c0
 09d1c0 19d1c0 09d1c0 19d1c0 09d1c0 19d1c0 09d1c0 19d1c0 09q000 19d1c0 09d1c0 19d1c0 09d1c0 19d1c0
 09d1c0 19d1c0 09d1c0 19d1c0 09d1c0 19q000
CST6CDT CST6CDT,M3.2.0,M11.1.0 -21600:CST,-18000*CDT,-18000*CWT,-18000*CPT 1-r0esg0 0ast80 17x9g0
 0ast80 2bmtus0 31tz8c0 02dsw0 1b9gdg0 09cyk0 19d440 09cyk0 19d440 09cyk0 19d440 09cyk0 19d440
 09px80 19d440 09cyk0 19d440 09cyk0 13lpg0 0f4d80 164g40 0clmk0 19d440 09px80 1905g0 09px80 19d440
 09cyk0 19d440 09cyk0 19d440 09cyk0 19d440 09cyk0 19d440 09px80 1905g0 09px80 19d440 09cyk0 19d440
 09cyk0 19d440 09cyk0 18a840 0afuk0 18a840 0ast80 17x9g0 0ast80 17x9g0 0ast80 18a840 0afuk0 18a840
 0afuk0 18a840 0ast80 17x9g0 0ast80 17x9g0 0ast80 18a840 0afuk0 18a840 0afuk0 18a840 0afuk0 18a840
 0ast80 17x9g0 0ast80 17x9g0 0ast80 18a840 0afuk0 18a840 0afuk0 18a840 0ast80 17x9g0 0ast80 17x9g0
 0ast80 16udg0
EET EET-2EEST,M3.5.0/3,M10.5.0/4 7200:EET,10800*EEST 13s9ms0 0902o0 19q000 09d1c0 19d1c0 09d1c0
 19q000 0902o0 19d1c0 09d1c0 19d1c0 09d1c0 19d1c0 09d1c0 19d1c0 09q000 19d1c0 09d1c0 19d1c0 09d1c0
 19d1c0 09d1c0 19d1c0 09d1c0 19d1c0 09d1c0 19d1c0 09q000 19d1c0 09d1c0 19d1c0 09d1c0 19d1c0 09d1c0
 19d1c0 09d1c0 19d1c0 09d1c0 19q000
EST EST5 -18000:EST
EST5EDT EST5EDT,M3.2.0,M11.1.0 -18000:EST,-14400*EDT,-14400*EWT,-14400*EPT 1-r0ev80 0ast80 17x9g0
 0ast80 2bmtus0 31tzb40 02dq40 1b9gdg0 09cyk0 19d440 09cyk0 19d440 09cyk0 19d440 09cyk0 19d440
 09px80 19d440 09cyk0 19d440 09cyk0 13lpg0 0f4d80 164g40 0clmk0 19d440 09px80 1905g0 09px80 19d440
 09cyk0 19d440 09cyk0 19d440 09cyk0 19d440 09cyk0 19d440 09px80 1905g0 09px80 19d440 09cyk0 19d440
 09cyk0 19d440 09cyk0 18a840 0afuk0 18a840 0ast80 17x9g0 0ast80 17x9g0 0ast80 18a840 0afuk0 18a840
 0afuk0 18a840 0ast80 17x9g0 0ast80 17x9g0 0ast80 18a840 0afuk0 18a840 0afuk0 18a840 0afuk0 18a840
 0ast80 17x9g0 0ast80 17x9g0 0ast80 18a840 0afuk0 18a840 0afuk0 18a840 0ast80 17x9g0 0ast80 17x9g0
 0ast80 16udg0
Etc/GMT GMT0 0:GMT
Etc/GMT+1 <-01>1 -3600:-01
Etc/GMT+10 <-10>10 -36000:-10
Etc/GMT+11 <-11>11 -39600:-11
Etc/GMT+12 <-12>12 -43200:-12
Etc/GMT+2 <-02>2 -7200:-02
Etc/GMT+3 <-03>3 -10800:-03
Etc/GMT+4 <-04>4 -14400:-04
Etc/GMT+5 <-05>5 -18000:-05
Etc/GMT+6 <-06>6 -21600:-06
Etc/GMT+7 <-07>7 -25200:-07
Etc/GMT+8 <-08>8 -28800:-08
Etc/GMT+9 <-09>9 -32400:-09
Etc/GMT-1 <+01>-1 3600:+01
Etc/GMT-10 <+10>-10 36000:+10
Etc/GMT-11 <+11>-11 39600:+11
Etc/GMT-12 <+12>-12 43200:+12
Etc/GMT-13 <+13>-13 46800:+13
Etc/GMT-14 <+14>-14 50400:+14
Etc/GMT-2 <+02>-2 7200:+02
Etc/GMT-3 <+03>-3 10800:+03
Etc/GMT-4 <+04>-4 14400:+04
Etc/GMT-5 <+05>-5 18000:+05
Etc/GMT-6 <+06>-6 21600:+06
Etc/GMT-7 <+07>-7 25200:+07
Etc/GMT-8 <+08>-8 28800:+08
Etc/GMT-9 <+09>-9 32400:+09
Etc/UCT UTC0 0:UTC
Europe/Amsterdam CET-1CEST,M3.5.0,M10.5.0/3
 1172:LMT,1172:AMT,4772*NST,4800*+0120,1200:+0020,7200*CEST,3600:CET 1-1ygf4wk 216g19c0 17v980
 2a51o0 17x6o0 2a2yo0 19d1c0 29q000 1902o0 29q000 1902o0 29q000 1902o0 29b6o0 1a2yo0 2c51c0 16l1c0
 2902o0 19q000 2ci000 1682o0 2bgyo0 179400 2bitc0 1779c0 2bmio0 17gio0 2bbeo0 17eo00 2bd9c0 17ctc0
 2bf400 17ayo0 2bvs00 16uao0 2bko00 17idc0 2b9k00 17gio0 2bbeo0 17eo00 2bf400 17ayo0 2btxc0 321uc0
 44uaz8 3bitc0 4779c0 3bko00 47idc0 5bd3s0 61aarpc 57k800 69q000 59d1c0 69d1c0 59d1c0 68l9c0
 5ggp1c0 6902o0 59q000 69d1c0 59d1c0 69d1c0 59q000 6902o0 59d1c0 69d1c0 59d1c0 69d1c0 59d1c0
 69d1c0 59d1c0 69q000 59d1c0 69d1c0 59d1c0 69d1c0 59d1c0 69d1c0 59d1c0 69d1c0 59d1c0 69d1c0 59d1c0
 69q000 59d1c0 69d1c0 59d1c0 69d1c0 59d1c0 69d1c0 59d1c0 69d1c0 59d1c0 69d1c0 59q000
Europe/Andorra CET-1CEST,M3.5.0,M10.5.0/3 364:LMT,0:WET,3600:CET,7200*CEST 1-100edm4 2nvgqy4
 3k3ctg0 29d1c0 39d1c0 29d1c0 39d1c0 29d1c0 39d1c0 29d1c0 39d1c0 29d1c0 39d1c0 29q000 39d1c0
 29d1c0 39d1c0 29d1c0 39d1c0 29d1c0 39d1c0 29d1c0 39d1c0 29d1c0 39q000
Europe/Astrakhan <+04>-4 11532:LMT,10800:+03,14400:+04,18000*+05,14400*+04 1-nu2zkc 237bv8c
 3qi27w0 29et80 39d440 29et80 39d440 29et80 39eys0 29d6w0 39d1c0 29d1c0 39d1c0 29d1c0 39d1c0
 29d1c0 39d1c0 29d1c0 49d1c0 19d440 49d1c0 19q000 29d1c0 4ipzw0 19d440 49d1c0 19d1c0 49d1c0 19d1c0
 49d1c0 19d1c0 49q000 1asw00 47x6o0 1asw00 47x6o0 1asw00 47x6o0 1b5uo0 47k800 1b5uo0 47k800 1b5uo0
 47x6o0 1asw00 47x6o0 1asw00 47x6o0 1b5uo0 47k800 1b5uo0 47k800 1b5uo0 47k800 1b5uo0 47x6o0 1asw00
 47x6o0 1asw00 47x6o0 1b5uo0 27k800 11vbzw0 2qnc40 2bdvvrj
Europe/Athens EET-2EEST,M3.5.0/3,M10.5.0/4
 5692:LMT,5692:AMT,7200:EET,10800*EEST,7200*CEST,3600:CET 1-12rxtq4 2aw2tdo 38bjasg 22vmk0 34hiw40
 416ik0 5scog0 47lx40 59o2k0 29eys0 34atzw0 26djw0 3bplus0 2bq800 371uw0 29d1c0 3902o0 291xc0
 39o5c0 2905g0 39qgo0 29akg0 39iik0 299980 39dcg0 29d1c0 39d1c0 29d1c0 39d1c0 29d1c0 39d1c0 29q000
 39d1c0 29d1c0 39d1c0 29d1c0 39d1c0 29d1c0 39d1c0 29d1c0 39d1c0 29d1c0 39d1c0 29q000 39d1c0 29d1c0
 39d1c0 29d1c0 39d1c0 29d1c0 39d1c0 29d1c0 39d1c0 29d1c0 39q000
Europe/Belfast GMT0BST,M3.5.0/1,M10.5.0 -75:LMT,0:GMT,3600*BST,7200*BDST,3600:BST 1-1rprx9x
 2zqf9hx 16uao0 29q000 18c000 29o5c0 19ruo0 29b6o0 19ew00 29b6o0 1auqo0 288ao0 19ew00 28y800
 1a2yo0 2a2yo0 17k800 2asw00 18a5c0 2asw00 18n400 2a2yo0 18n400 29q000 1902o0 2afxc0 18n400 2a2yo0
 18n400 29q000 1902o0 2a2yo0 18n400 2a2yo0 18n400 29q000 19d1c0 2a2yo0 18n400 29q000 1902o0 2a2yo0
 18n400 2a2yo0 18n400 29q000 1902o0 2a2yo0 1b5uo0 251hc0 3mbmk0 251hc0 3c8qo0 26hc00 3c8qo0 26uao0
 3bvs00 28n400 3a4tc0 25clc0 14bms0 29q000 1902o0 28a5c0 31frw0 264dc0 14bms0 26uao0 1bvs00 27x6o0
 1asw00 28n400 19q000 2902o0 19q000 29d1c0 19q000 2902o0 18n400 29q000 1902o0 2a2yo0 18n400 2afxc0
 18n400 29q000 1902o0 2a2yo0 18n400 2a2yo0 18n400 29q000 1902o0 2902o0 1b5uo0 27k800 1b5uo0 27x6o0
 1asw00 27k800 1b5uo0 27k800 1b5uo0 27k800 1b5uo0 27k800 1bitc0 25reo0 4cyfo0 11kjf00 2779c0
 1bitc0 2779c0 1bitc0 2779c0 1bitc0 2779c0 1bitc0 27k800 1b5uo0 27k800 1b5uo0 27k800 1bitc0 2779c0
 1bitc0 2779c0 1bitc0 27x3w0 1asw00 27x6o0 1asw00 27x6o0 1asw00 27x6o0 1b5uo0 27x6o0 1asw00 27x6o0
 1asw00 27x6o0 1asw00 27x6o0 1asw00 27x6o0 1b5uo0 27k800 1b5uo0 27x6o0 1asw00 27x6o0 1asw00 27x6o0
 1asw00 27x6o0 1asw00 27x6o0 1asw00 28a5c0
Europe/Belgrade CET-1CEST,M3.5.0,M10.5.0/3 4920:LMT,3600:CET,7200*CEST 1-18vsmgo 2twhnko 1swz00
 27k800 19q000 29d1c0 19d1c0 2b7pc0 16qlc0 2jl1hc0 19d1c0 29d1c0 19q000 29d1c0 19d1c0 29d1c0
 19d1c0 29d1c0 19d1c0 29d1c0 19d1c0 29d1c0 19d1c0 29d1c0 19q000 29d1c0 19d1c0 29d1c0 19d1c0 29d1c0
 19d1c0 29d1c0 19d1c0 29d1c0 19d1c0 29q000
Europe/Berlin CET-1CEST,M3.5.0,M10.5.0/3 3208:LMT,3600:CET,7200*CEST,10800*CEMT 1-1421154 2c1n0x4
 17ves0 2a4yw0 17x6o0 2asw00 17x6o0 2b8qdc0 11cm000 27k800 19q000 29d1c0 19d1c0 29d1c0 32o7w0
 26bs00 12txg0 27k800 191xc0 29b9g0 31sqk0 22inw0 151k40 2a2yo0 18n400 29q000 1902o0 2fx91c0
 1902o0 29d1c0 19d1c0 29d1c0 19d1c0 29d1c0 19d1c0 29d1c0 19q000 29d1c0 19d1c0 29d1c0 19d1c0 29d1c0
 19d1c0 29d1c0 19d1c0 29d1c0 19d1c0 29d1c0 19q000 29d1c0 19d1c0 29d1c0 19d1c0 29d1c0 19d1c0 29d1c0
 19d1c0 29d1c0 19d1c0 29q000
Europe/Bratislava CET-1CEST,M3.5.0,M10.5.0/3 3464:LMT,3464:PMT,3600:CET,7200*CEST,0:GMT 1-1qmkw08
 2lsd1c0 3cttug8 27ves0 3a4yw0 27x6o0 3asw00 27x6o0 3b8qdc0 21cm000 37k800 29q000 39d1c0 29d1c0
 39d1c0 29d1c0 3b5uo0 27vc00 42vs40 24bk00 32vmk0 28n400 3a2yo0 28n400 39o5c0 291xc0 3fe6000
 29d1c0 39q000 2902o0 39d1c0 29d1c0 39d1c0 29d1c0 39d1c0 29d1c0 39d1c0 29q000 39d1c0 29d1c0 39d1c0
 29d1c0 39d1c0 29d1c0 39d1c0 29d1c0 39d1c0 29d1c0 39d1c0 29q000 39d1c0 29d1c0 39d1c0 29d1c0 39d1c0
 29d1c0 39d1c0 29d1c0 39d1c0 29d1c0 39q000
Europe/Brussels CET-1CEST,M3.5.0,M10.5.0/3 1050:LMT,1050:BMT,0:WET,3600:CET,7200*CEST,3600*WEST
 1-1ayy3h6 26forh6 3br3hc0 4rrx80 37vc00 4a4yw0 37x6o0 4asw00 37x6o0 22wh40 55omo0 2b5uo0 56uao0
 2cyo00 57ayo0 2bko00 57rmo0 2a2yo0 5a2yo0 28n400 5902o0 29q000 59d1c0 29d1c0 5a2yo0 28n400 59q000
 2902o0 5a2yo0 290b00 5a2yo0 28n400 59q000 2902o0 5a2yo0 28n400 59d1c0 29d1c0 5902o0 2a2yo0 59d1c0
 29d1c0 5902o0 29q000 5a2yo0 28n400 59d1c0 29d1c0 5902o0 29q000 5a2yo0 2b5uo0 551hc0 44deo0
 31a36k0 47k800 39q000 49d1c0 38l9c0 4a4tc0 38l9c0 4clpc0 379400 4fwu800 3902o0 49q000 39d1c0
 49d1c0 39d1c0 49q000 3902o0 49d1c0 39d1c0 49d1c0 39d1c0 49d1c0 39d1c0 49d1c0 39q000 49d1c0 39d1c0
 49d1c0 39d1c0 49d1c0 39d1c0 49d1c0 39d1c0 49d1c0 39d1c0 49d1c0 39q000 49d1c0 39d1c0 49d1c0 39d1c0
 49d1c0 39d1c0 49d1c0 39d1c0 49d1c0 39d1c0 49q000
Europe/Bucharest EET-2EEST,M3.5.0/3,M10.5.0/4 6264:LMT,6264:BMT,7200:EET,10800*EEST 1-14u7wu0
 2krxxc0 3fj8m0 26w5c0 39d1c0 29d1c0 39q000 29d1c0 39d1c0 29d1c0 39d1c0 29d1c0 39d1c0 29d1c0
 39d1c0 29d1c0 39d1c0 29d1c0 3kp0dc0 26h980 39q000 2905g0 39d6w0 29d1c0 39d1c0 29d1c0 39d1c0
 29d1c0 39d1c0 29q000 39d1c0 29d1c0 39d1c0 29d1c0 39d1c0 29d1c0 39d1c0 29d1c0 39d1c0 29d1c0 39d1c0
 29q000 39cvs0 29d1c0 39d1c0 29d1c0 39d1c0 29d1c0 39d1c0 29cyk0 39d440 29cyk0 39q2s0 2ast80 37xhs0
Europe/Budapest CET-1CEST,M3.5.0,M10.5.0/3 4580:LMT,3600:CET,7200*CEST 1-15bee78 2db0dz8 17ves0
 2a4yw0 17x6o0 2asw00 17x6o0 2auqo0 17vc00 2afxc0 18n400 2aq1x00 1thcc0 27k800 19q000 29d1c0
 19d1c0 2awd00 19eys0 27pxk0 19rrw0 29b9g0 19d1c0 29d1c0 19d1c0 29q000 1902o0 22f4vs0 16u7w0
 2bw0c0 16uao0 2clpc0 164dc0 2clpc0 164dc0 2br3bs0 1902o0 29d1c0 19d1c0 29d1c0 19d1c0 29d1c0
 19d1c0 29d6w0 19q000 29d1c0 19d1c0 29d1c0 19d1c0 29d1c0 19d1c0 29d1c0 19d1c0 29d1c0 19d1c0 29d1c0
 19q000 29d1c0 19d1c0 29d1c0 19d1c0 29d1c0 19d1c0 29d1c0 19d1c0 29d1c0 19d1c0 29q000
Europe/Busingen CET-1CEST,M3.5.0,M10.5.0/3 2048:LMT,1786:BMT,3600:CET,7200*CEST 1-1os49kw 2lc05ja
 3ohmxdm 27x6o0 3asw00 27x6o0 3k2zus0 29d1c0 39d1c0 29d1c0 39d1c0 29d1c0 39d1c0 29q000 39d1c0
 29d1c0 39d1c0 29d1c0 39d1c0 29d1c0 39d1c0 29d1c0 39d1c0 29d1c0 39d1c0 29q000 39d1c0 29d1c0 39d1c0
 29d1c0 39d1c0 29d1c0 39d1c0 29d1c0 39d1c0 29d1c0 39q000
Europe/Chisinau EET-2EEST,M3.5.0/3,M10.5.0/4
 6920:LMT,6900:CMT,6264:BMT,7200:EET,10800*EEST,7200*CEST,3600:CET,10800:MSK,14400*MSD 1-1ayy808
 2jw96ok 370f1to 4fj8m0 36w5c0 49d1c0 39d1c0 49q000 39d1c0 49d1c0 39d1c0 49d1c0 39d1c0 49d1c0
 39d1c0 49d1c0 39d1c0 49d1c0 39d1c0 4geqo0 5ha580 6oc8g0 57k800 69q000 59d1c0 77cl00 8j3pbw0
 79et80 89d440 79et80 89d440 79et80 89eys0 79d6w0 89d1c0 79d1c0 89d1c0 79d1c0 89d1c0 79d1c0 89d1c0
 79d1c0 89d1c0 79d1c0 89d1c0 425p80 37kdk0 49d1c0 39d1c0 49cvs0 39cyk0 49d440 39cyk0 49d440 39cyk0
 49d440 39cyk0 49q2s0 3ast80 47xf00 3asw00 47x6o0 3asw00 47x6o0 3b5uo0 47k800 3b5uo0 47k800 3b5uo0
 47x6o0 3asw00 47x6o0 3asw00 47x6o0 3b5uo0 47k800 3b5uo0 47k800 3b5uo0 47k800 3b5uo0 47x6o0 3asw00
 47x6o0 3asw00 47x6o0 3b5uo0 47k800 3b5uo0 47k800 3b5uo0 47x6o0 3asw00 47x6o0 3asw00 47x6o0 3asw00
 47x6o0 3b5uo0 47k800 3b5uo0 47k800 3b5uo0 47x6o0 3asw00 47x6o0 3asw00 47x6o0 3b5uo0 47kas0
Europe/Copenhagen CET-1CEST,M3.5.0,M10.5.0/3 3020:LMT,3020:CMT,3600:CET,7200*CEST 1-15r1bnw
 2235k00 3bo7orw 275bw0 3cbs2w0 21aco80 37k800 29q000 39d1c0 29d1c0 39d1c0 26y000 3dbmo0 26bs00
 3clpc0 251hc0 3e1k00 24oio0 3giutc0 2902o0 39d1c0 29d1c0 39d1c0 29d1c0 39d1c0 29d1c0 39d1c0
 29q000 39d1c0 29d1c0 39d1c0 29d1c0 39d1c0 29d1c0 39d1c0 29d1c0 39d1c0 29d1c0 39d1c0 29q000 39d1c0
 29d1c0 39d1c0 29d1c0 39d1c0 29d1c0 39d1c0 29d1c0 39d1c0 29d1c0 39q000
Europe/Dublin GMT0IST,M3.5.0/1,M10.5.0
 -1521:LMT,-1521:DMT,2079*IST,0:GMT,3600*BST,3600*IST,3600:IST 1-1anxqtr 2iol480 36uao0 49pytr
 38c000 49o5c0 39ruo0 49b6o0 39ew00 49b6o0 3auqo0 488ao0 39ew00 58y800 3a2yo0 5a2yo0 37k800 5asw00
 38a5c0 5asw00 38n400 5a2yo0 38n400 59q000 3902o0 5afxc0 38n400 5a2yo0 38n400 59q000 3902o0 5a2yo0
 38n400 5a2yo0 38n400 59q000 39d1c0 5a2yo0 38n400 59q000 3902o0 5a2yo0 38n400 5a2yo0 38n400 59q000
 3902o0 5a2yo0 3b5uo0 551hc0 33g8800 58a5c0 3bvs00 58n400 3a2yo0 57x6o0 3asw00 58n400 39q000
 5902o0 39q000 59d1c0 39q000 5902o0 38n400 59q000 3902o0 5a2yo0 38n400 5afxc0 38n400 59q000 3902o0
 5a2yo0 38n400 5a2yo0 38n400 59q000 3902o0 5902o0 3b5uo0 57k800 3b5uo0 57x6o0 3asw00 57k800 3b5uo0
 57k800 3b5uo0 57k800 3b5uo0 57k800 3bitc0 55reo0 6cyfo0 31kjf00 5779c0 3bitc0 5779c0 3bitc0
 5779c0 3bitc0 5779c0 3bitc0 57k800 3b5uo0 57k800 3b5uo0 57k800 3bitc0 5779c0 3bitc0 5779c0 3bitc0
 57x3w0 3asw00 57x6o0 3asw00 57x6o0 3asw00 57x6o0 3b5uo0 57x6o0 3asw00 57x6o0 3asw00 57x6o0 3asw00
 57x6o0 3asw00 57x6o0 3b5uo0 57k800 3b5uo0 57x6o0 3asw00 57x6o0 3asw00 57x6o0 3asw00 57x6o0 3asw00
 57x6o0 3asw00 58a5c0
Europe/Gibraltar CET-1CEST,M3.5.0,M10.5.0/3 -1284:LMT,0:GMT,3600*BST,7200*BDST,3600:CET,7200*CEST
 1-1anxr0c 2iol38c 16uao0 29q000 18c000 29o5c0 19ruo0 29b6o0 19ew00 29b6o0 1auqo0 288ao0 19ew00
 28y800 1a2yo0 2a2yo0 17k800 2asw00 18a5c0 2asw00 18n400 2a2yo0 18n400 29q000 1902o0 2afxc0 18n400
 2a2yo0 18n400 29q000 1902o0 2a2yo0 18n400 2a2yo0 18n400 29q000 19d1c0 2a2yo0 18n400 29q000 1902o0
 2a2yo0 18n400 2a2yo0 18n400 29q000 1902o0 2a2yo0 1b5uo0 251hc0 3mbmk0 251hc0 3c8qo0 26hc00 3c8qo0
 26uao0 3bvs00 28n400 3a4tc0 25clc0 14bms0 29q000 1902o0 28a5c0 31frw0 264dc0 14bms0 26uao0 1bvs00
 27x6o0 1asw00 28n400 19q000 2902o0 19q000 29d1c0 19q000 2902o0 18n400 29q000 1902o0 2a2yo0 18n400
 2afxc0 18n400 49q000 5d0tp80 49d1c0 59d1c0 49d1c0 59d1c0 49q000 59d1c0 49d1c0 59d1c0 49d1c0
 59d1c0 49d1c0 59d1c0 49d1c0 59d1c0 49d1c0 59d1c0 49q000 59d1c0 49d1c0 59d1c0 49d1c0 59d1c0 49d1c0
 59d1c0 49d1c0 59d1c0 49d1c0 59q000
Europe/Guernsey GMT0BST,M3.5.0/1,M10.5.0
 -609:LMT,0:GMT,3600*BST,7200*CEST,3600:CET,7200*BDST,3600:BST 1-tiakv3 21ixx33 16uao0 29q000
 18c000 29o5c0 19ruo0 29b6o0 19ew00 29b6o0 1auqo0 288ao0 19ew00 28y800 1a2yo0 2a2yo0 17k800 2asw00
 18a5c0 2asw00 18n400 2a2yo0 18n400 29q000 1902o0 2afxc0 18n400 2a2yo0 18n400 29q000 1902o0 2a2yo0
 18n400 2a2yo0 18n400 29q000 19d1c0 2a2yo0 18n400 29q000 1902o0 2a2yo0 18n400 2a2yo0 18n400 29q000
 1902o0 2a2yo0 1b5uo0 251hc0 36kt00 417vs80 37k800 49q000 39d1c0 49d1c0 39d1c0 51ufo0 23i5o0
 14bms0 29q000 1902o0 28a5c0 51frw0 264dc0 14bms0 26uao0 1bvs00 27x6o0 1asw00 28n400 19q000 2902o0
 19q000 29d1c0 19q000 2902o0 18n400 29q000 1902o0 2a2yo0 18n400 2afxc0 18n400 29q000 1902o0 2a2yo0
 18n400 2a2yo0 18n400 29q000 1902o0 2902o0 1b5uo0 27k800 1b5uo0 27x6o0 1asw00 27k800 1b5uo0 27k800
 1b5uo0 27k800 1b5uo0 27k800 1bitc0 25reo0 6cyfo0 11kjf00 2779c0 1bitc0 2779c0 1bitc0 2779c0
 1bitc0 2779c0 1bitc0 27k800 1b5uo0 27k800 1b5uo0 27k800 1bitc0 2779c0 1bitc0 2779c0 1bitc0 27x3w0
 1asw00 27x6o0 1asw00 27x6o0 1asw00 27x6o0 1b5uo0 27x6o0 1asw00 27x6o0 1asw00 27x6o0 1asw00 27x6o0
 1asw00 27x6o0 1b5uo0 27k800 1b5uo0 27x6o0 1asw00 27x6o0 1asw00 27x6o0 1asw00 27x6o0 1asw00 27x6o0
 1asw00 28a5c0
Europe/Helsinki EET-2EEST,M3.5.0/3,M10.5.0/4 5989:LMT,5989:HMT,7200:EET,10800*EEST 1-1bss9yd
 2mebs00 3ax3tqd 29gqo0 3k31s80 29d1c0 39d1c0 29d1c0 39d440 29d1c0 39d1c0 29q000 39d1c0 29d1c0
 39d1c0 29d1c0 39d1c0 29d1c0 39d1c0 29d1c0 39d1c0 29d1c0 39d1c0 29q000 39d1c0 29d1c0 39d1c0 29d1c0
 39d1c0 29d1c0 39d1c0 29d1c0 39d1c0 29d1c0 39q000
Europe/Isle_of_Man GMT0BST,M3.5.0/1,M10.5.0 -1075:LMT,0:GMT,3600*BST,7200*BDST,3600:BST 1-19a1gi5
 2haosq5 16uao0 29q000 18c000 29o5c0 19ruo0 29b6o0 19ew00 29b6o0 1auqo0 288ao0 19ew00 28y800
 1a2yo0 2a2yo0 17k800 2asw00 18a5c0 2asw00 18n400 2a2yo0 18n400 29q000 1902o0 2afxc0 18n400 2a2yo0
 18n400 29q000 1902o0 2a2yo0 18n400 2a2yo0 18n400 29q000 19d1c0 2a2yo0 18n400 29q000 1902o0 2a2yo0
 18n400 2a2yo0 18n400 29q000 1902o0 2a2yo0 1b5uo0 251hc0 3mbmk0 251hc0 3c8qo0 26hc00 3c8qo0 26uao0
 3bvs00 28n400 3a4tc0 25clc0 14bms0 29q000 1902o0 28a5c0 31frw0 264dc0 14bms0 26uao0 1bvs00 27x6o0
 1asw00 28n400 19q000 2902o0 19q000 29d1c0 19q000 2902o0 18n400 29q000 1902o0 2a2yo0 18n400 2afxc0
 18n400 29q000 1902o0 2a2yo0 18n400 2a2yo0 18n400 29q000 1902o0 2902o0 1b5uo0 27k800 1b5uo0 27x6o0
 1asw00 27k800 1b5uo0 27k800 1b5uo0 27k800 1b5uo0 27k800 1bitc0 25reo0 4cyfo0 11kjf00 2779c0
 1bitc0 2779c0 1bitc0 2779c0 1bitc0 2779c0 1bitc0 27k800 1b5uo0 27k800 1b5uo0 27k800 1bitc0 2779c0
 1bitc0 2779c0 1bitc0 27x3w0 1asw00 27x6o0 1asw00 27x6o0 1asw00 27x6o0 1b5uo0 27x6o0 1asw00 27x6o0
 1asw00 27x6o0 1asw00 27x6o0 1asw00 27x6o0 1b5uo0 27k800 1b5uo0 27x6o0 1asw00 27x6o0 1asw00 27x6o0
 1asw00 27x6o0 1asw00 27x6o0 1asw00 28a5c0
Europe/Jersey GMT0BST,M3.5.0/1,M10.5.0
 -506:LMT,0:GMT,3600*BST,7200*CEST,3600:CET,7200*BDST,3600:BST 1-11cerk0 29d23s0 16uao0 29q000
 18c000 29o5c0 19ruo0 29b6o0 19ew00 29b6o0 1auqo0 288ao0 19ew00 28y800 1a2yo0 2a2yo0 17k800 2asw00
 18a5c0 2asw00 18n400 2a2yo0 18n400 29q000 1902o0 2afxc0 18n400 2a2yo0 18n400 29q000 1902o0 2a2yo0
 18n400 2a2yo0 18n400 29q000 19d1c0 2a2yo0 18n400 29q000 1902o0 2a2yo0 18n400 2a2yo0 18n400 29q000
 1902o0 2a2yo0 1b5uo0 251hc0 36kt00 417vs80 37k800 49q000 39d1c0 49d1c0 39d1c0 51ufo0 23i5o0
 14bms0 29q000 1902o0 28a5c0 51frw0 264dc0 14bms0 26uao0 1bvs00 27x6o0 1asw00 28n400 19q000 2902o0
 19q000 29d1c0 19q000 2902o0 18n400 29q000 1902o0 2a2yo0 18n400 2afxc0 18n400 29q000 1902o0 2a2yo0
 18n400 2a2yo0 18n400 29q000 1902o0 2902o0 1b5uo0 27k800 1b5uo0 27x6o0 1asw00 27k800 1b5uo0 27k800
 1b5uo0 27k800 1b5uo0 27k800 1bitc0 25reo0 6cyfo0 11kjf00 2779c0 1bitc0 2779c0 1bitc0 2779c0
 1bitc0 2779c0 1bitc0 27k800 1b5uo0 27k800 1b5uo0 27k800 1bitc0 2779c0 1bitc0 2779c0 1bitc0 27x3w0
 1asw00 27x6o0 1asw00 27x6o0 1asw00 27x6o0 1b5uo0 27x6o0 1asw00 27x6o0 1asw00 27x6o0 1asw00 27x6o0
 1asw00 27x6o0 1b5uo0 27k800 1b5uo0 27x6o0 1asw00 27x6o0 1asw00 27x6o0 1asw00 27x6o0 1asw00 27x6o0
 1asw00 28a5c0
Europe/Kaliningrad EET-2
 4920:LMT,3600:CET,7200*CEST,7200:EET,10800*EEST,10800:MSK,14400*MSD,10800:+03 1-14212go 2c1n28o
 17ves0 2a4yw0 17x6o0 2asw00 17x6o0 2b8qdc0 11cm000 27k800 19q000 29d1c0 19d1c0 29d1c0 3el00 4z6o0
 39kd80 582tg0 6i9avw0 59et80 69d440 59et80 69d440 59et80 69eys0 59d6w0 69d1c0 59d1c0 69d1c0
 59d1c0 69d1c0 59d1c0 69d1c0 59d1c0 49d1c0 39d440 49d1c0 39q000 49d1c0 39d1c0 49d1c0 39d1c0 49d1c0
 39d1c0 49d1c0 39d1c0 49d1c0 39d1c0 49q000 3asw00 47x6o0 3asw00 47x6o0 3asw00 47x6o0 3b5uo0 47k800
 3b5uo0 47k800 3b5uo0 47x6o0 3asw00 47x6o0 3asw00 47x6o0 3b5uo0 47k800 3b5uo0 47k800 3b5uo0 47k800
 3b5uo0 47x6o0 3asw00 47x6o0 3asw00 47x6o0 3b5uo0 77k800 31vbzw0
Europe/Kirov MSK-3 11928:LMT,10800:+03,14400:+04,18000*+05,14400*MSD,10800:MSK,14400:MSK 1-qcx400
 25q5zo0 3qi27w0 29et80 39d440 29et80 39d440 29et80 39eys0 29d6w0 39d1c0 29d1c0 39d1c0 29d1c0
 39d1c0 29d1c0 39d1c0 29d1c0 49d1c0 59d440 49d1c0 59q000 29d1c0 4ipzw0 59d440 49d1c0 59d1c0 49d1c0
 59d1c0 49d1c0 59d1c0 49q000 5asw00 47x6o0 5asw00 47x6o0 5asw00 47x6o0 5b5uo0 47k800 5b5uo0 47k800
 5b5uo0 47x6o0 5asw00 47x6o0 5asw00 47x6o0 5b5uo0 47k800 5b5uo0 47k800 5b5uo0 47k800 5b5uo0 47x6o0
 5asw00 47x6o0 5asw00 47x6o0 5b5uo0 67k800 51vbzw0
Europe/Kyiv EET-2EEST,M3.5.0/3,M10.5.0/4
 7324:LMT,7324:KMT,7200:EET,10800:MSK,7200*CEST,3600:CET,14400*MSD,10800*EEST 1-1ayy8bg 2n4x6o0
 337a03g 45vd6k0 5kzv40 47k800 59q000 31oyg0 6jipzs0 39et80 69d440 39et80 69d440 39et80 69eys0
 39d6w0 69d1c0 39d1c0 69d1c0 39d1c0 69d1c0 39d1c0 69d1c0 39d1c0 69d1c0 39d1c0 69d1c0 751ek0 2neqw0
 79d1c0 29d1c0 79d1c0 29d1c0 79d1c0 29d1c0 79d1c0 29d1c0 79q000 2asys0
Europe/Lisbon WET0WEST,M3.5.0/1,M10.5.0 -2205:LMT,0:WET,3600*WEST,7200*WEMT,3600:CET,7200*CEST
 0-18vsgyr 1em0zmr 22bufw0 16zxg0 266800 1bq580 271s40 1bq580 271s40 1bq580 273ms0 1bq580 271s40
 1bq580 21b2g00 18so00 2st1c0 18n400 29q000 1902o0 2a2yo0 1902o0 2a2yo0 18n400 2st1c0 18n400
 29d1c0 19d1c0 2sg2o0 19d1c0 2902o0 19q000 2a2yo0 18n400 29d1c0 19d1c0 2902o0 19q000 2a2yo0 1b5uo0
 251hc0 1bmio0 299c00 19ew00 288ao0 325p80 25reo0 13lpg0 2779c0 31sqk0 26uao0 138qs0 26uao0 325p80
 26hc00 138qs0 26uao0 325p80 26hc00 138qs0 28a5c0 19d1c0 29d9o0 19d1c0 29d1c0 19d1c0 29d1c0 19d1c0
 29d1c0 19d1c0 29d1c0 19q000 29d1c0 19d1c0 29d1c0 19d1c0 29d1c0 19d1c0 29d1c0 19d1c0 29d1c0 19q000
 29d1c0 19d1c0 29d1c0 19d1c0 29d1c0 19d1c0 29d1c0 19d1c0 29d1c0 19d1c0 29d1c0 19q000 29d1c0 19d1c0
 29d1c0 19d1c0 29d1c0 19d1c0 29d1c0 49d1c0 157ljs0 29d1c0 19d1c0 29q2s0 19d1c0 29d1c0 19d1c0
 29q000 1902o0 29cyk0 19d1c0 29d1c0 19d1c0 29d1c0 19d1c0 29d1c0 19q000 29d1c0 19d1c0 29d440 19d1c0
 29d1c0 19d1c0 29d1c0 19d1c0 29d1c0 19d1c0 29d1c0 19q000 29d1c0 19d1c0 29d1c0 49d1c0 59d1c0 49d1c0
 59d1c0 49d1c0 59d1c0 49d1c0 29q000
Europe/Ljubljana CET-1CEST,M3.5.0,M10.5.0/3 3484:LMT,3600:CET,7200*CEST 1-18vslcs 2twhmgs 1swz00
 27k800 19q000 29d1c0 19d1c0 29d1c0 18l9c0 2jl1hc0 19d1c0 29d1c0 19q000 29d1c0 19d1c0 29d1c0
 19d1c0 29d1c0 19d1c0 29d1c0 19d1c0 29d1c0 19d1c0 29d1c0 19q000 29d1c0 19d1c0 29d1c0 19d1c0 29d1c0
 19d1c0 29d1c0 19d1c0 29d1c0 19d1c0 29q000
Europe/Luxembourg CET-1CEST,M3.5.0,M10.5.0/3
 1476:LMT,3600:CET,7200*CEST,0:WET,3600*WEST,7200*WEST,3600:WET 1-y89550 268l290 175hg0 2ast80
 1796s0 2at1k0 17x6o0 33lh40 44zmo0 3b6300 46u2c0 3cytk0 47at40 3bktk0 47rh40 3a31g0 4a2vw0 38n9k0
 48zx40 39q2s0 49et80 39b9g0 4a2vw0 38n6s0 49px80 3905g0 4a2vw0 3905g0 4a2vw0 38ncc0 49q000 3902o0
 4a2yo0 38n400 49d1c0 39d1c0 4902o0 3a2yo0 49d1c0 39d1c0 4902o0 39q000 4a2yo0 38n400 49d1c0 39d1c0
 4902o0 39q000 4a2yo0 3b5uo0 451hc0 542ao0 61aeak0 57k800 69q000 59d1c0 18n400 2a2yo0 18l9c0
 2clpc0 179400 2fwu800 1902o0 29q000 19d1c0 29d1c0 19d1c0 29q000 1902o0 29d1c0 19d1c0 29d1c0
 19d1c0 29d1c0 19d1c0 29d1c0 19q000 29d1c0 19d1c0 29d1c0 19d1c0 29d1c0 19d1c0 29d1c0 19d1c0 29d1c0
 19d1c0 29d1c0 19q000 29d1c0 19d1c0 29d1c0 19d1c0 29d1c0 19d1c0 29d1c0 19d1c0 29d1c0 19d1c0 29q000
Europe/Madrid CET-1CEST,M3.5.0,M10.5.0/3 -884:LMT,0:WET,3600*WEST,7200*WEMT,3600:CET,7200*CEST
 1-100edc0 290sik0 18yas0 29cyk0 19eys0 22d2vw0 18sqs0 2ssyk0 18n6s0 29px80 1905g0 2a2yo0 1902o0
 2a2vw0 18n6s0 240lh80 15k2s0 29cyk0 31frw0 27z1c0 1j1c80 48a2k0 513yt80 4685g0 5brzw0 48n6s0
 5a2vw0 48n6s0 5a2vw0 48n6s0 5a2vw0 48n6s0 51clx80 47x9g0 5cswik0 4905g0 59px80 4905g0 58zzw0
 49d440 59px80 4905g0 59q5k0 49d1c0 59d1c0 49d1c0 59q000 4902o0 59d1c0 49d1c0 59d1c0 49d1c0 59d1c0
 49d1c0 59d1c0 49q000 59d1c0 49d1c0 59d1c0 49d1c0 59d1c0 49d1c0 59d1c0 49d1c0 59d1c0 49d1c0 59d1c0
 49q000 59d1c0 49d1c0 59d1c0 49d1c0 59d1c0 49d1c0 59d1c0 49d1c0 59d1c0 49d1c0 59q000
Europe/Malta CET-1CEST,M3.5.0,M10.5.0/3 3484:LMT,3600:CET,7200*CEST 1-13qyw0s 2bsbx8s 164ak0
 29d440 19et80 288dg0 1aunw0 27ig40 1b5rw0 28n6s0 19cyk0 2aau2s0 118r9k0 27k800 19q000 29b6o0
 18n400 2a4tc0 18j940 29f1k0 1afxc0 289zs0 1afxc0 27kdk0 1b5uo0 2979rs0 16h980 2cls40 164dc0
 2clpc0 164dc0 2cyo00 164dc0 2clpc0 164dc0 2c8qo0 16hc00 2clpc0 16hc00 29b6o0 19d1c0 2ahs00 17m2o0
 2b45k0 17x3w0 2asys0 17x3w0 2asys0 17x3w0 2asys0 17x3w0 2asys0 17x3w0 2a4w40 18y580 29q2s0 19d1c0
 29d1c0 19d1c0 29d1c0 19d1c0 29d1c0 19q000 29d1c0 19d1c0 29d1c0 19d1c0 29d1c0 19d1c0 29d1c0 19d1c0
 29d1c0 19d1c0 29d1c0 19q000 29d1c0 19d1c0 29d1c0 19d1c0 29d1c0 19d1c0 29d1c0 19d1c0 29d1c0 19d1c0
 29q000
Europe/Minsk <+03>-3
 6616:LMT,6600:MMT,7200:EET,10800:MSK,7200*CEST,3600:CET,14400*MSD,10800*EEST,10800:+03 1-1ayy7rs
 2n4x6og 3379zjc 45r1mk0 5pbf40 47k800 59q000 49d1c0 34oac0 6j6dmk0 39et80 69d440 39et80 69d440
 39et80 69eys0 39d6w0 69d1c0 39d1c0 69d1c0 39d1c0 69d1c0 39d1c0 69d1c0 39d1c0 69d1c0 39d1c0 7sg2o0
 29d440 79d1c0 29d1c0 79d1c0 29d1c0 79d1c0 29d1c0 79d1c0 29d1c0 79q000 2asw00 77x6o0 2asw00 77x6o0
 2asw00 77x6o0 2b5uo0 77k800 2b5uo0 77k800 2b5uo0 77x6o0 2asw00 77x6o0 2asw00 77x6o0 2b5uo0 77k800
 2b5uo0 77k800 2b5uo0 77k800 2b5uo0 77x6o0 2asw00 77x6o0 2asw00 77x6o0 2b5uo0 87k800 8dzv4zj
Europe/Monaco CET-1CEST,M3.5.0,M10.5.0/3
 1772:LMT,561:PMT,0:WET,3600*WEST,7200*WEMT,3600:CET,7200*CEST 1-14hnyp8 29tlnln 32pzpnl 25luo0
 38y800 2a4tc0 37vc00 2auqo0 37idc0 2b7pc0 36sg00 2cyo00 37ayo0 2bko00 37rmo0 2a2yo0 3bvs00 26uao0
 3902o0 29q000 39d1c0 29d1c0 3a2yo0 28n400 39q000 2902o0 3a2yo0 2902o0 3a2yo0 28n400 39q000 2902o0
 3a2yo0 28n400 39d1c0 29d1c0 3902o0 2a2yo0 39d1c0 29d1c0 3902o0 29q000 3a2yo0 28n400 39d1c0 29d1c0
 3902o0 29q000 3a2yo0 2b5uo0 351po0 4mdbo0 37x3w0 47x9g0 3c8w80 47k800 39q000 49d1c0 39nzs0 4922w0
 58l9c0 6fxlx80 59cyk0 69q5k0 5902o0 69q000 59d1c0 69d1c0 59d1c0 69q000 5902o0 69d1c0 59d1c0
 69d1c0 59d1c0 69d1c0 59d1c0 69d1c0 59q000 69d1c0 59d1c0 69d1c0 59d1c0 69d1c0 59d1c0 69d1c0 59d1c0
 69d1c0 59d1c0 69d1c0 59q000 69d1c0 59d1c0 69d1c0 59d1c0 69d1c0 59d1c0 69d1c0 59d1c0 69d1c0 59d1c0
 69q000
Europe/Moscow MSK-3
 9017:LMT,9017:MMT,9079:MMT,12679*MST,16279*MDST,14400*MSD,10800:MSK,18000*+05,7200:EET,10800*EEST,14400:MSK
 1-1ayy9mh 2j1sw00 3ipzua 297hc0 47yyk0 35i840 4d9p80 51jwk7 62cvk0 5s8o00 71qvw0 58fpc0 61jms0
 8is040 6412as0 5qi27w0 69et80 59d440 69et80 59d440 69et80 59eys0 69d6w0 59d1c0 69d1c0 59d1c0
 69d1c0 59d1c0 69d1c0 59d1c0 69d1c0 59d1c0 69d1c0 59d1c0 69q000 99d1c0 89d440 65reo0 53ljw0 69d1c0
 59d1c0 69d1c0 59d1c0 69d1c0 59d1c0 69d1c0 59q000 6asw00 57x6o0 6asw00 57x6o0 6asw00 57x6o0 6b5uo0
 57k800 6b5uo0 57k800 6b5uo0 57x6o0 6asw00 57x6o0 6asw00 57x6o0 6b5uo0 57k800 6b5uo0 57k800 6b5uo0
 57k800 6b5uo0 57x6o0 6asw00 57x6o0 6asw00 57x6o0 6b5uo0 a7k800 61vbzw0
Europe/Paris CET-1CEST,M3.5.0,M10.5.0/3
 561:LMT,561:PMT,0:WET,3600*WEST,7200*CEST,3600:CET,7200*WEMT 1-154gb3l 2afgo00 32qx1nl 25luo0
 38y800 2a4tc0 37vc00 2auqo0 37idc0 2b7pc0 36sg00 2cyo00 37ayo0 2bko00 37rmo0 2a2yo0 3bvs00 26uao0
 3902o0 29q000 39d1c0 29d1c0 3a2yo0 28n400 39q000 2902o0 3a2yo0 2902o0 3a2yo0 28n400 39q000 2902o0
 3a2yo0 28n400 39d1c0 29d1c0 3902o0 2a2yo0 39d1c0 29d1c0 3902o0 29q000 3a2yo0 28n400 39d1c0 29d1c0
 3902o0 29q000 3a2yo0 2b5uo0 351po0 45p8w0 518rcc0 47k800 59q000 49d1c0 67efo0 329k40 6922w0
 58l9c0 4fxlx80 59cyk0 49q5k0 5902o0 49q000 59d1c0 49d1c0 59d1c0 49q000 5902o0 49d1c0 59d1c0
 49d1c0 59d1c0 49d1c0 59d1c0 49d1c0 59q000 49d1c0 59d1c0 49d1c0 59d1c0 49d1c0 59d1c0 49d1c0 59d1c0
 49d1c0 59d1c0 49d1c0 59q000 49d1c0 59d1c0 49d1c0 59d1c0 49d1c0 59d1c0 49d1c0 59d1c0 49d1c0 59d1c0
 49q000
Europe/Riga EET-2EEST,M3.5.0/3,M10.5.0/4
 5794:LMT,5794:RMT,9394*LST,7200:EET,10800:MSK,7200*CEST,3600:CET,14400*MSD,10800*EEST 1-1ayy74y
 2jzalk0 17x6o0 2a4tc0 12mg00 33myns0 47fhlky 5gz180 6p5v40 57k800 69q000 59d1c0 69d1c0 4k7s0
 7j14ns0 49et80 79d440 49et80 79d440 49et80 79eys0 49d6w0 79d1c0 49d1c0 79d1c0 49d1c0 79d1c0
 49d1c0 79d1c0 49d1c0 89d1c0 39d440 89d1c0 39q000 89d1c0 39d1c0 89d1c0 39d1c0 89d1c0 39d1c0 89d1c0
 39d1c0 89d1c0 39d1c0 89q000 39d1c0 89d440 3asw00 87x6o0 3asw00 87x6o0 3b5uo0 8qaao0
Europe/Rome CET-1CEST,M3.5.0,M10.5.0/3 2996:LMT,2996:RMT,3600:CET,7200*CEST 1-1hs7rn8 2e170v8
 3bsds00 264ak0 39d440 29et80 388dg0 2aunw0 37ig40 2b5rw0 38n6s0 29cyk0 3aau2s0 218r9k0 37k800
 29q000 39d1c0 28l9c0 3a4tc0 28j940 39f1k0 2afxc0 389zs0 2afxc0 37kdk0 2b5uo0 3979rs0 26h980
 3cls40 264dc0 3clpc0 264dc0 3cyo00 264dc0 3clpc0 264dc0 3c8qo0 26hc00 3clpc0 26hc00 3clpc0 264dc0
 3c8qo0 26hc00 3clpc0 264dc0 3clpc0 264dc0 3c8qo0 26hc00 3clpc0 26hc00 3c8qo0 26hc00 39q5k0 2902o0
 39d1c0 29d1c0 39d1c0 29d1c0 39d1c0 29d1c0 39d1c0 29q000 39d1c0 29d1c0 39d1c0 29d1c0 39d1c0 29d1c0
 39d1c0 29d1c0 39d1c0 29d1c0 39d1c0 29q000 39d1c0 29d1c0 39d1c0 29d1c0 39d1c0 29d1c0 39d1c0 29d1c0
 39d1c0 29d1c0 39q000
Europe/Samara <+04>-4 12020:LMT,10800:+03,14400:+04,18000*+05,14400*+04,10800*+03 1-qcx400 25q5zo0
 3qi27w0 29et80 39d440 29et80 39d440 29et80 39eys0 29d6w0 39d1c0 29d1c0 39d1c0 29d1c0 39d1c0
 29d1c0 39d1c0 29d1c0 49d1c0 19d440 49d1c0 19q000 59d1c0 19d440 212w00 389zs0 29d1c0 39d1c0 29d1c0
 39d1c0 29d1c0 39d1c0 29d1c0 39q000 2asw00 37x6o0 2asw00 37x6o0 2asw00 37x6o0 2b5uo0 37k800 2b5uo0
 37k800 2b5uo0 37x6o0 2asw00 37x6o0 2asw00 37x6o0 2b5uo0 37k800 2b5uo0 37k800 2b5uo0 37k800 2b5uo0
 37x6o0 2asw00 37x6o0 2asw00 47x6o0 1b5xg0 27k800 2dzv7rj
Europe/Sarajevo CET-1CEST,M3.5.0,M10.5.0/3 4420:LMT,3600:CET,7200*CEST 1-18vsm2s 2twhn6s 1swz00
 27k800 19q000 29d1c0 19d1c0 29d1c0 18l9c0 2jl1hc0 19d1c0 29d1c0 19q000 29d1c0 19d1c0 29d1c0
 19d1c0 29d1c0 19d1c0 29d1c0 19d1c0 29d1c0 19d1c0 29d1c0 19q000 29d1c0 19d1c0 29d1c0 19d1c0 29d1c0
 19d1c0 29d1c0 19d1c0 29d1c0 19d1c0 29q000
Europe/Saratov <+04>-4 11058:LMT,10800:+03,14400:+04,18000*+05,14400*+04 1-qcx400 25q5zo0 3qi27w0
 29et80 39d440 29et80 39d440 29et80 39eys0 29d6w0 39d1c0 29d1c0 39d1c0 29d1c0 39d1c0 29d1c0 49d1c0
 19d440 49d1c0 19d1c0 49d1c0 19q000 29d1c0 4ipzw0 19d440 49d1c0 19d1c0 49d1c0 19d1c0 49d1c0 19d1c0
 49q000 1asw00 47x6o0 1asw00 47x6o0 1asw00 47x6o0 1b5uo0 47k800 1b5uo0 47k800 1b5uo0 47x6o0 1asw00
 47x6o0 1asw00 47x6o0 1b5uo0 47k800 1b5uo0 47k800 1b5uo0 47k800 1b5uo0 47x6o0 1asw00 47x6o0 1asw00
 47x6o0 1b5uo0 27k800 11vbzw0 213m040 2b0x7rj
Europe/Simferopol MSK-3
 8184:LMT,8160:SMT,7200:EET,10800:MSK,7200*CEST,3600:CET,14400*MSD,10800*EEST,14400:MSK 1-1ayy8zc
 2n4x6oo 337a0qo 45xiyk0 5iu340 47k800 59q000 49d1c0 3iac0 6jajmk0 39et80 69d440 39et80 69d440
 39et80 69eys0 39d6w0 69d1c0 39d1c0 69d1c0 39d1c0 69d1c0 39d1c0 69d1c0 39d1c0 69d1c0 39d1c0 2eeio0
 7wrpg0 29d1c0 79d1c0 29d1c0 79d1c0 61sl00 37kdk0 69d1c0 39d1c0 69pug0 3at4c0 77x9g0 2asw00 77x6o0
 2asw00 77x6o0 2b5uo0 77k800 2b5uo0 77k800 2b5uo0 77x6o0 2asw00 77x6o0 2asw00 77x6o0 2b5uo0 77k800
 2b5uo0 77k800 2b5uo0 77k800 2b5uo0 77x6o0 2asw00 77x6o0 2asw00 77x6o0 2b5uo0 77k800 2b5uo0 77k800
 2b5uo0 77x6o0 2asw00 87x3w0 3asqg0
Europe/Skopje CET-1CEST,M3.5.0,M10.5.0/3 5144:LMT,3600:CET,7200*CEST 1-18vsmmw 2twhnqw 1swz00
 27k800 19q000 29d1c0 19d1c0 29d1c0 18l9c0 2jl1hc0 19d1c0 29d1c0 19q000 29d1c0 19d1c0 29d1c0
 19d1c0 29d1c0 19d1c0 29d1c0 19d1c0 29d1c0 19d1c0 29d1c0 19q000 29d1c0 19d1c0 29d1c0 19d1c0 29d1c0
 19d1c0 29d1c0 19d1c0 29d1c0 19d1c0 29q000
Europe/Sofia EET-2EEST,M3.5.0/3,M10.5.0/4 5596:LMT,7016:IMT,7200:EET,3600:CET,7200*CEST,10800*EEST
 1-1ayy6zg 27s708k 3p0d6uw 47k800 39q000 49d1c0 39d1c0 29d440 5hqq240 29eys0 59o2k0 292040 59o2k0
 290880 59pug0 290b00 59d1c0 29d1c0 59d1c0 29q000 59d1c0 29d1c0 59d1c0 29d1c0 59d1c0 29d1c0 59d1c0
 29d1c0 59d1c0 29d1c0 59d1c0 29q000 59cvs0 29cyk0 59d440 29cyk0 59d440 29cyk0 59d440 29cyk0 59d440
 29cyk0 59q2s0 2ast80 57xhs0
Europe/Stockholm CET-1CEST,M3.5.0,M10.5.0/3 4332:LMT,3614:SET,3600:CET,7200*CEST 1-1bhq3cc 2ayjpvy
 38jiake 275hg0 3x5bew0 2902o0 39d1c0 29d1c0 39d1c0 29d1c0 39d1c0 29d1c0 39d1c0 29q000 39d1c0
 29d1c0 39d1c0 29d1c0 39d1c0 29d1c0 39d1c0 29d1c0 39d1c0 29d1c0 39d1c0 29q000 39d1c0 29d1c0 39d1c0
 29d1c0 39d1c0 29d1c0 39d1c0 29d1c0 39d1c0 29d1c0 39q000
Europe/Tallinn EET-2EEST,M3.5.0/3,M10.5.0/4
 5940:LMT,5940:TMT,3600:CET,7200*CEST,7200:EET,10800:MSK,14400*MSD,10800*EEST 1-1ayy790 2jvj9c0
 33re10 27x6o0 1et6g0 4ygov0 5a1zgd0 3ktx80 2l94g0 37k800 29q000 39d1c0 58uac0 6j27mk0 59et80
 69d440 59et80 69d440 59et80 69eys0 59d6w0 69d1c0 59d1c0 69d1c0 59d1c0 69d1c0 59d1c0 69d1c0 59d1c0
 79d1c0 49d440 79d1c0 49q000 79d1c0 49d1c0 79d1c0 49d1c0 79d1c0 49d1c0 79d1c0 49d1c0 79d1c0 49d1c0
 79q000 4asw00 77x6o0 4asw00 77x6o0 4asys0 77x6o0 4b5uo0 719dc00
Europe/Tirane CET-1CEST,M3.5.0,M10.5.0/3 4760:LMT,3600:CET,7200*CEST 1-t85vo8 2dt2gw8 118pew0
 27k800 1m800 2g7ot40 17rjw0 2autg0 17x3w0 2ayis0 17x3w0 2b5xg0 17k580 2b42s0 17lzw0 2b42s0 17lzw0
 2b42s0 17x3w0 2ahus0 17x3w0 2b5xg0 17x3w0 2a4w40 18jbw0 29eys0 19d6w0 29d1c0 19d1c0 29d1c0 19d1c0
 29d1c0 19d1c0 29d1c0 19d1c0 29d1c0 19d1c0 29d1c0 19q000 29d1c0 19d1c0 29d1c0 19d1c0 29d1c0 19d1c0
 29d1c0 19d1c0 29d1c0 19d1c0 29q000
Europe/Ulyanovsk <+04>-4 11616:LMT,10800:+03,14400:+04,18000*+05,14400*+04,10800*+03,7200:+02
 1-qcx400 25q5zo0 3qi27w0 29et80 39d440 29et80 39d440 29et80 39eys0 29d6w0 39d1c0 29d1c0 39d1c0
 29d1c0 39d1c0 29d1c0 39d1c0 29d1c0 49d1c0 19d440 49d1c0 19q000 59d1c0 69d440 15reo0 43ljw0 19d1c0
 49d1c0 19d1c0 49d1c0 19d1c0 49d1c0 19d1c0 49q000 1asw00 47x6o0 1asw00 47x6o0 1asw00 47x6o0 1b5uo0
 47k800 1b5uo0 47k800 1b5uo0 47x6o0 1asw00 47x6o0 1asw00 47x6o0 1b5uo0 47k800 1b5uo0 47k800 1b5uo0
 47k800 1b5uo0 47x6o0 1asw00 47x6o0 1asw00 47x6o0 1b5uo0 27k800 11vbzw0 2qnc40 2bdvvrj
Europe/Vaduz CET-1CEST,M3.5.0,M10.5.0/3 2284:LMT,3600:CET,7200*CEST 1-13g44fg 2ohmxrg 17x6o0
 2asw00 17x6o0 2k2zus0 19d1c0 29d1c0 19d1c0 29d1c0 19d1c0 29d1c0 19q000 29d1c0 19d1c0 29d1c0
 19d1c0 29d1c0 19d1c0 29d1c0 19d1c0 29d1c0 19d1c0 29d1c0 19q000 29d1c0 19d1c0 29d1c0 19d1c0 29d1c0
 19d1c0 29d1c0 19d1c0 29d1c0 19d1c0 29q000
Europe/Vienna CET-1CEST,M3.5.0,M10.5.0/3 3921:LMT,3600:CET,7200*CEST 1-14211ox 2c1n1gx 17ves0
 2a4yw0 17x6o0 2asw00 17x6o0 2t6000 18a5c0 2a7a800 11cm000 27k800 19q000 29d1c0 19d1c0 29d1c0
 1iio0 2ivmo0 191xc0 29b6o0 19d1c0 2a2yo0 18n400 2gfyyg0 18zzw0 29d9o0 19d1c0 29d1c0 19d1c0 29d1c0
 19d1c0 29d1c0 19q000 29d1c0 19d1c0 29d1c0 19d1c0 29d1c0 19d1c0 29d1c0 19d1c0 29d1c0 19d1c0 29d1c0
 19q000 29d1c0 19d1c0 29d1c0 19d1c0 29d1c0 19d1c0 29d1c0 19d1c0 29d1c0 19d1c0 29q000
Europe/Vilnius EET-2EEST,M3.5.0/3,M10.5.0/4
 6076:LMT,5040:WMT,5736:KMT,3600:CET,7200:EET,10800:MSK,7200*CEST,14400*MSD,10800*EEST 1-1ayy7cs
 2jb5y4s 31g224o 4e75nc 34kqk0 5acbs40 6gpp40 3pits0 67k800 39q000 69d1c0 565zo0 7j4vx80 59et80
 79d440 59et80 79d440 59et80 79eys0 59d6w0 79d1c0 59d1c0 79d1c0 59d1c0 79d1c0 59d1c0 79d1c0 59d1c0
 89d1c0 49d440 89d1c0 49q000 89d1c0 49d1c0 89d1c0 49d1c0 89d1c0 49d1c0 89d1c0 49d1c0 89d1c0 49d1c0
 89q000 4asw00 87x6o0 4asw00 67x9g0 3asw00 67x6o0 4b5uo0 81s3eo0
Europe/Volgograd MSK-3 10660:LMT,10800:+03,14400:+04,18000*+05,14400*MSD,10800:MSK,14400:MSK
 1-q3cw84 25glrw4 3qi27w0 29et80 39d440 29et80 39d440 29et80 39eys0 29d6w0 39d1c0 29d1c0 39d1c0
 29d1c0 39d1c0 29d1c0 49d1c0 59d440 49d1c0 59d1c0 49d1c0 59q000 29d1c0 4ipzw0 59d440 49d1c0 59d1c0
 49d1c0 59d1c0 49d1c0 59d1c0 49q000 5asw00 47x6o0 5asw00 47x6o0 5asw00 47x6o0 5b5uo0 47k800 5b5uo0
 47k800 5b5uo0 47x6o0 5asw00 47x6o0 5asw00 47x6o0 5b5uo0 47k800 5b5uo0 47k800 5b5uo0 47k800 5b5uo0
 47x6o0 5asw00 47x6o0 5asw00 47x6o0 5b5uo0 67k800 51vbzw0 2239c40 514oqk0
Europe/Warsaw CET-1CEST,M3.5.0,M10.5.0/3 5040:LMT,5040:WMT,3600:CET,7200*CEST,7200:EET,10800*EEST
 1-1ayy6k0 2iko800 3dvyc0 27ves0 3a4yw0 27x6o0 3asw00 47x6o0 5aunw0 47x6o0 21evbs0 39fcwc0 218cao0
 37k800 29q000 39d1c0 29gnw0 3an980 29kd80 38fs40 2922w0 3ar1c0 27x6o0 3a2yo0 28n400 39q000 2902o0
 34013w0 264dc0 39d1c0 29d1c0 3clpc0 26hc00 39d1c0 29d1c0 3c8qo0 26hc00 3c8qo0 26hc00 3c8qo0
 26hc00 3clpc0 264dc0 36j4tc0 2902o0 39q000 29d1c0 39d1c0 29d1c0 39q000 2902o0 39d1c0 29d1c0
 39d1c0 29d1c0 39d1c0 29d1c0 39d1c0 29q000 39d1c0 29d1c0 39d1c0 29d1c0 39d1c0 29d1c0 39d440 29d1c0
 39d1c0 29d1c0 39d1c0 29q000 39d1c0 29d1c0 39d1c0 29d1c0 39d1c0 29d1c0 39d1c0 29d1c0 39d1c0 29d1c0
 39q000
Europe/Zagreb CET-1CEST,M3.5.0,M10.5.0/3 3832:LMT,3600:CET,7200*CEST 1-18vslmg 2twhmqg 1swz00
 27k800 19q000 29d1c0 19d1c0 29d1c0 18l9c0 2jl1hc0 19d1c0 29d1c0 19q000 29d1c0 19d1c0 29d1c0
 19d1c0 29d1c0 19d1c0 29d1c0 19d1c0 29d1c0 19d1c0 29d1c0 19q000 29d1c0 19d1c0 29d1c0 19d1c0 29d1c0
 19d1c0 29d1c0 19d1c0 29d1c0 19d1c0 29q000
Factory <-00>0 0:-00
HST HST10 -36000:HST
Indian/Antananarivo EAT-3 11404:LMT,10800:EAT,14400*EAST 1-uj8gss 2m9lccs 14oio0
Indian/Chagos <+06>-6 17380:LMT,18000:+05,21600:+06 1-wvpc2s 21ag64us 2ly387j
Indian/Christmas <+07>-7 25372:LMT,25200:+07 1-133iwws 122m2xwb
Indian/Cocos <+0630>-6:30 23260:LMT,23400:+0630 1-10j6sm4 1201qtln
Indian/Comoro EAT-3 10384:LMT,10800:EAT 1-uj8g0g
Indian/Kerguelen <+05>-5 0:-00,18000:+05 1-afrs00 119ybszj
Indian/Mahe <+04>-4 13308:LMT,14400:+04 1-wvp8xo 11we99x7
Indian/Maldives <+05>-5 17640:LMT,17640:MMT,18000:+05 1-1ayyga0 215r19c0 214qh7xj
Indian/Mauritius <+04>-4 13800:LMT,14400:+04,18000*+05 1-wvp9bc 213jnu7c 18bx80 2dd0wc0 17x3w0
 1f1binj
Indian/Mayotte EAT-3 10856:LMT,10800:EAT 1-uj8gdk
Indian/Reunion <+04>-4 13312:LMT,14400:+04 1-uks29s 11u3c39b
MET MET-1MEST,M3.5.0,M10.5.0/3 3600:MET,7200*MEST 1-s0e080 07ves0 1a4yw0 07x6o0 1asw00 07x6o0
 1b8qdc0 01cm000 17k800 09q000 19d1c0 09d1c0 19d1c0 08l9c0 1ggp1c0 0902o0 19q000 09d1c0 19d1c0
 09d1c0 19q000 0902o0 19d1c0 09d1c0 19d1c0 09d1c0 19d1c0 09d1c0 19d1c0 09q000 19d1c0 09d1c0 19d1c0
 09d1c0 19d1c0 09d1c0 19d1c0 09d1c0 19d1c0 09d1c0 19d1c0 09q000 19d1c0 09d1c0 19d1c0 09d1c0 19d1c0
 09d1c0 19d1c0 09d1c0 19d1c0 09d1c0 19q000
MST MST7 -25200:MST
MST7MDT MST7MDT,M3.2.0,M11.1.0 -25200:MST,-21600*MDT,-21600*MWT,-21600*MPT 1-r0epo0 0ast80 17x9g0
 0ast80 2bmtus0 31tz5k0 02dvo0 1b9gdg0 09cyk0 19d440 09cyk0 19d440 09cyk0 19d440 09cyk0 19d440
 09px80 19d440 09cyk0 19d440 09cyk0 13lpg0 0f4d80 164g40 0clmk0 19d440 09px80 1905g0 09px80 19d440
 09cyk0 19d440 09cyk0 19d440 09cyk0 19d440 09cyk0 19d440 09px80 1905g0 09px80 19d440 09cyk0 19d440
 09cyk0 19d440 09cyk0 18a840 0afuk0 18a840 0ast80 17x9g0 0ast80 17x9g0 0ast80 18a840 0afuk0 18a840
 0afuk0 18a840 0ast80 17x9g0 0ast80 17x9g0 0ast80 18a840 0afuk0 18a840 0afuk0 18a840 0afuk0 18a840
 0ast80 17x9g0 0ast80 17x9g0 0ast80 18a840 0afuk0 18a840 0afuk0 18a840 0ast80 17x9g0 0ast80 17x9g0
 0ast80 16udg0
PST8PDT PST8PDT,M3.2.0,M11.1.0 -28800:PST,-25200*PDT,-25200*PWT,-25200*PPT 1-r0emw0 0ast80 17x9g0
 0ast80 2bmtus0 31tz2s0 02dyg0 1b9gdg0 09cyk0 19d440 09cyk0 19d440 09cyk0 19d440 09cyk0 19d440
 09px80 19d440 09cyk0 19d440 09cyk0 13lpg0 0f4d80 164g40 0clmk0 19d440 09px80 1905g0 09px80 19d440
 09cyk0 19d440 09cyk0 19d440 09cyk0 19d440 09cyk0 19d440 09px80 1905g0 09px80 19d440 09cyk0 19d440
 09cyk0 19d440 09cyk0 18a840 0afuk0 18a840 0ast80 17x9g0 0ast80 17x9g0 0ast80 18a840 0afuk0 18a840
 0afuk0 18a840 0ast80 17x9g0 0ast80 17x9g0 0ast80 18a840 0afuk0 18a840 0afuk0 18a840 0afuk0 18a840
 0ast80 17x9g0 0ast80 17x9g0 0ast80 18a840 0afuk0 18a840 0afuk0 18a840 0ast80 17x9g0 0ast80 17x9g0
 0ast80 16udg0
Pacific/Apia <+13>-13 45184:LMT,-41216:LMT,-41400:-1130,-39600:-11,-36000*-10,50400*+14,46800:+13
 1-14fxxj4 29nfeo0 3kcrmt4 4vp3la0 39odo0 4902o0 54zbk0 64qog0 59d1c0 69q000 5902o0 69q000 5902o0
 69q000 5902o0 69q000 5902o0 69q000 5902o0 69q000 59d1c0 69q000 5902o0 69q000 5902o0 69q000
 68rka3j
Pacific/Auckland NZST-12NZDT,M9.5.0,M4.1.0/3
 41944:LMT,41400:NZMT,45000*NZST,43200*NZST,43200:NZST,46800*NZDT 1-1gsoz14 2usn9z4 164ak0 3biw40
 17x5a0 3asxe0 17x5a0 3asxe0 17x5a0 3asxe0 18a3y0 3afyq0 18a3y0 3afyq0 1afvy0 37x820 1asum0 37x820
 1asum0 37x820 1asum0 37x820 1asum0 37x820 1b5ta0 37k9e0 1b5ta0 37x820 42qrd20 5f1tpk0 45reo0
 5clpc0 46uao0 5c8qo0 46hc00 5c8qo0 46hc00 5c8qo0 46hc00 5c8qo0 46hc00 5c8qo0 46hc00 5c8qo0 46uao0
 5c8qo0 46hc00 5c8qo0 46hc00 5c8qo0 46hc00 5c8qo0 46hc00 5c8qo0 46hc00 5c8qo0 46uao0 5c8qo0 46hc00
 5b5uo0 48a5c0 5afxc0 48a5c0 5afxc0 48a5c0 5afxc0 48n400 5a2yo0 48n400 5a2yo0 48n400 5a2yo0 48n400
 5afxc0 48a5c0 5afxc0 48a5c0 5afxc0 48n400 5a2yo0 48n400 5a2yo0 48n400 5afxc0 48a5c0 5afxc0 48a5c0
 5afxc0 48n400 5a2yo0 48n400 5a2yo0 48n400 5a2yo0 48n400 5a2yo0
Pacific/Bougainville <+11>-11 37336:LMT,35312:PMMT,36000:+10,32400:+09,39600:+11 1-1ayyvh4 27tuc88
 3osc24w 21n05g0 41071c40 4c1b0jj
Pacific/Chatham <+1245>-12:45<+1345>,M9.5.0/2:45,M4.1.0/3:45
 44028:LMT,44100:+1215,45900:+1245,49500*+1345 1-1gsp0n0 2149qqm0 3f1tq90 25reo0 3clpc0 26uao0
 3c8qo0 26hc00 3c8qo0 26hc00 3c8qo0 26hc00 3c8qo0 26hc00 3c8qo0 26hc00 3c8qo0 26uao0 3c8qo0 26hc00
 3c8qo0 26hc00 3c8qo0 26hc00 3c8qo0 26hc00 3c8qo0 26hc00 3c8qo0 26uao0 3c8qo0 26hc00 3b5uo0 28a5c0
 3afxc0 28a5c0 3afxc0 28a5c0 3afxc0 28n400 3a2yo0 28n400 3a2yo0 28n400 3a2yo0 28n400 3afxc0 28a5c0
 3afxc0 28a5c0 3afxc0 28n400 3a2yo0 28n400 3a2yo0 28n400 3afxc0 28a5c0 3afxc0 28a5c0 3afxc0 28n400
 3a2yo0 28n400 3a2yo0 28n400 3a2yo0 28n400 3a2yo0 29q000 3902o0 29q000 3902o0 29q000 3902o0 29q000
 3902o0 29q000 39d1c0 29q000 3902o0 29q000 3902o0 29q000 3902o0 29q000 3902o0 29q000 3902o0 29q000
 39d1c0 29q000 3902o0 29q000 3902o0 29q000 3902o0 29q000 3902o0 29q000 3902o0 2a2yo0 3902o0 29q000
 3902o0 29q000 3902o0 29q000 3902o0 29q000 3902o0 29q000 39d1c0 29q000 3902o0 29q000 3902o0 29q000
 3902o0 29q000 3902o0 29q000 3902o0 29q000 39d1c0 29q000 3902o0 29q000 3902o0 35w4rj
Pacific/Chuuk <+10>-10 -49972:LMT,36428:LMT,36000:+10,32400:+09 1-1t8j2rw 2t83xc0 376a5nw 229hes0
 3bkenw0 229fk40 21c9ddzj
Pacific/Easter <-06>6<-05>,M9.1.6/22,M4.1.6/22
 -26248:LMT,-26248:EMT,-25200:-07,-21600*-06,-21600:-06,-18000*-05 1-15r0p2w 2m9leo0 3ivmeuw
 27k580 3c8tg0 26h980 3a31g0 27x3w0 3asys0 27x3w0 3b5xg0 27k580 3ag040 28a2k0 3b5xg0 27k580 3b5xg0
 27x3w0 3asys0 27x3w0 3asys0 27x3w0 3b5xg0 27k580 3b5xg0 27k580 3b5xg0 27x3w0 3asys0 47x3w0 5asys0
 47x3w0 5asys0 47x3w0 5b5xg0 47k580 5b5xg0 47k580 5b5xg0 49cyk0 59d440 47x3w0 5asys0 47x3w0 5b5xg0
 47k580 59q2s0 48zzw0 5b5xg0 47x3w0 5asys0 47x3w0 5asys0 47x3w0 5asys0 47x3w0 5b5xg0 47k580 5b5xg0
 48n180 5a31g0 47x3w0 5a31g0 49px80 59q2s0 47x3w0 5b5xg0 47k580 5b5xg0 47k580 5b5xg0 47k580 5b5xg0
 47x3w0 5asys0 47x3w0 5asys0 47x3w0 5b5xg0 47k580 5b5xg0 48n180 5a31g0 47x3w0 5asys0 48zzw0 59q2s0
 4ast80 55eis0 4cyl80 56hes0 4c8nw0 56udg0 4bvp80 56udg0 4vonw0 54olg0 4e1h80 54olg0 4e1h80 54olg0
 4c8nw0 57x9g0 4ast80 57x9g0 4ast80 57x9g0 4ast80 58a840 4afuk0 57x9g0 4b5rw0 57x9g0 4ast80 57x9g0
 4ast80 57x9g0 4ast80 57x9g0 4ast80 57x9g0 4b5rw0 57kas0 4b5rw0 57x9g0 4ast80 57x9g0 4ast80 57x9g0
 4ast80 57x9g0 4ast80 57x9g0 4b5rw0 57kas0 4b5rw0 57x9g0 4ast80 57x9g0 56xxvj
Pacific/Efate <+11>-11 40396:LMT,39600:+11,43200*+12 1-u964i4 2wbu364 151hc0 24y8qs0 19cyk0 29d440
 19cyk0 29q2s0 18zzw0 29q2s0 19cyk0 29d440 19cyk0 29d440 19cyk0 29d440 19cyk0 29d440 19cyk0 29q2s0
 164ak0 2e1ms0 14ofw0 1nh8ybj
Pacific/Fakaofo <+13>-13 -41096:LMT,-39600:-11,46800:+13 1-100dhmg 21lxe1ig 2dljh3j
Pacific/Fiji <+12>-12 42944:LMT,43200:+12,46800*+13 1-sa2x4w 217bs00w 164dc0 2cyo00 15reo0 253a5c0
 164dc0 2asw00 16uao0 2bvs00 14oio0 2e1k00 14oio0 2eeio0 14bh80 2erk40 13ylc0 2erhc0 13ylc0 2f4g00
 13lmo0 2f4g00 13lmo0 2f4g00 13lmo0 2fheo0 138o00 2hn6o0 11fuo0 18vivfj
Pacific/Funafuti <+12>-12 43012:LMT,43200:+12 1-100fais 11zizbib
Pacific/Galapagos <-06>6 -21504:LMT,-18000:-05,-21600:-06,-18000*-05 1-kcr62o 2spdryo 33lsas0
 23jp80 2nglf3j
Pacific/Gambier <-09>9 -32388:LMT,-32400:-09 1-tvndoc 11te7env
Pacific/Guadalcanal <+11>-11 38388:LMT,39600:+11 1-tvowac 11te8x9v
Pacific/Guam ChST-10 -51660:LMT,34740:LMT,36000:GST,32400:+09,39600*GDT,36000:ChST 1-1t8j1h0
 2t83xc0 3ld6pp0 21dl9g0 47s1k40 2txp80 43frms0 2qdrpo 47kgac 23ljw0 4c8tg0 26u7w0 4bvus0 26u7w0
 416uo40 23ljw0 416aas0 24ivxo 4cls2c 26h980 5c65zw0
Pacific/Honolulu HST10 -37886:LMT,-37800:HST,-34200*HDT,-34200*HWT,-34200*HPT,-36000:HST 1-12lnw3m
 2jgnatm 113l00 34jvb00 41tyvu0 12e5e0 5votg0
Pacific/Kanton <+13>-13 0:-00,-43200:-12,-39600:-11,46800:+13 1-gvk800 2lypqo0 37yiqk0 3mgvrrj
Pacific/Kiritimati <+14>-14 -37760:LMT,-38400:-1040,-36000:-10,50400:+14 1-100dk74 2153iz5s
 37yirhc 3mgvujj
Pacific/Kosrae <+11>-11 -47284:LMT,39116:LMT,39600:+11,32400:+09,36000:+10,43200:+12 1-1t8j4uk
 2t83xc0 376a4yk 229hhk0 49cmd40 327sas0 229fk40 5cm2540 2f9l3w0 2kdq4zj
Pacific/Kwajalein <+12>-12 40160:LMT,39600:+11,36000:+10,32400:+09,-43200:-12,43200:+12 1-100f8bk
 2ise0fk 327sas0 11hjus0 4ddxug0 5cgv6k0 5n6g2bj
Pacific/Majuro <+12>-12 41088:LMT,39600:+11,32400:+09,36000:+10,43200:+12 1-100f91c 276a6hc
 129hhk0 39cmd40 227sas0 11h6w40 4deat40 4znb8vj
Pacific/Marquesas <-0930>9:30 -33480:LMT,-34200:-0930 1-tvncu0 11te7dtj
Pacific/Midway SST11 -42568:LMT,-39600:-11,-36000*-10,-39600:SST 1-100dghk 2sx94dk 34ofw0
Pacific/Nauru <+12>-12 40060:LMT,41400:+1130,32400:+09,43200:+12 1-pjxiws 2ba66ys 11kwca0 3hfzda0
 3urfndj
Pacific/Niue <-11>11 -40780:LMT,-40800:-1120,-39600:-11 1-8zbv78 263yiok 212dxdi7
Pacific/Norfolk <+11>-11<+12>,M10.1.0,M4.1.0/3
 40312:LMT,40320:+1112,41400:+1130,45000*+1230,39600:+11,43200*+12 1-100f8fs 2q3eins 3cfj8q0
 26hc00 4l6nk00 5239aq0 49d1c0 59d1c0 49d1c0 59d1c0 49d1c0 59d1c0 49d1c0 59d1c0 49q000 59d1c0
 49d1c0 59d1c0 49d1c0 59d1c0 49d1c0 59d1c0 49d1c0 59d1c0 49d1c0 59q000 49d1c0 59d1c0 49d1c0 59d1c0
 49d1c0 59d1c0 49d1c0 59d1c0 49d1c0 59d1c0 49d1c0 59q000 49d1c0 59d1c0 49d1c0 59d1c0 55j3bj
Pacific/Noumea <+11>-11 39948:LMT,39600:+11,43200*+12 1-u9645o 2ye0ixo 14dbw0 2ecqs0 14f6k0
 299p700 14oio0 1lc6nbj
Pacific/Pago_Pago SST11 45432:LMT,-40968:LMT,-39600:SST 1-14fxxq0 29nfeo0
Pacific/Palau <+09>-9 -54124:LMT,32276:LMT,32400:+09 1-1t8izkk 2t83xc0 21ziz383
Pacific/Pitcairn <-08>8 -31220:LMT,-30600:-0830,-28800:-08 1-100dp8s 21esg26s 2kqho1j
Pacific/Pohnpei <+11>-11 -48428:LMT,37972:LMT,39600:+11,32400:+09,36000:+10 1-1t8j3ys 2t83xc0
 376a42s 229hhk0 49cmd40 327sas0 229fk40 21c9ddzj
Pacific/Port_Moresby <+10>-10 35320:LMT,35312:PMMT,36000:+10 1-1ayytx4 27tuao8 222nok8f
Pacific/Rarotonga <-10>10 48056:LMT,-38344:LMT,-37800:-1030,-34200*-0930,-36000:-10 1-10jifqw
 2rk6io0 3dlv68w 45rbw0 3c8s20 46ham0 3c8s20 46ham0 3c8s20 46u9a0 3c8s20 46ham0 3c8s20 46ham0
 3c8s20 46ham0 3c8s20 46ham0 3c8s20 46ham0 3c8s20 46u9a0 3c8s20 46ham0 3c8s20 46ham0 3c8s20 46ham0
 4ogumlj
Pacific/Saipan ChST-10 -51420:LMT,34980:LMT,32400:+09,36000:GST,39600*GDT,36000:ChST 1-1t8j1no
 2t83xc0 3mpn8no 47t6as0 3txp80 43frms0 3qdrpo 47kgac 33ljw0 4c8tg0 36u7w0 4bvus0 36u7w0 416uo40
 33ljw0 416aas0 34ivxo 4cls2c 36h980 5c65zw0
Pacific/Tahiti <-10>10 -35896:LMT,-36000:-10 1-tvnayw 11te7byf
Pacific/Tarawa <+12>-12 41524:LMT,43200:+12 1-100f9dg 11zizacz
Pacific/Tongatapu <+13>-13 44352:LMT,44400:+1220,46800:+13,50400*+14 1-corjk0 27znjyo 3k8amdc
 28fpc0 3bvs00 24bh80 3eelg0 24bh80 37pmis0 23lmo0 2ays7jj
Pacific/Wake <+12>-12 39988:LMT,43200:+12 1-100f86s 11ziz96b
Pacific/Wallis <+12>-12 44120:LMT,43200:+12 1-100fbdk 11zizcd3
WET WET0WEST,M3.5.0/1,M10.5.0 0:WET,3600*WEST 13s9ms0 0902o0 19q000 09d1c0 19d1c0 09d1c0 19q000
 0902o0 19d1c0 09d1c0 19d1c0 09d1c0 19d1c0 09d1c0 19d1c0 09q000 19d1c0 09d1c0 19d1c0 09d1c0 19d1c0
 09d1c0 19d1c0 09d1c0 19d1c0 09d1c0 19d1c0 09q000 19d1c0 09d1c0 19d1c0 09d1c0 19d1c0 09d1c0 19d1c0
 09d1c0 19d1c0 09d1c0 19q000"

/-- Further names of zones, each with the zone that it stands for. -/
def aliases : String := r"Africa/Timbuktu Africa/Bamako
America/Atka America/Adak
America/Coral_Harbour America/Atikokan
America/Kralendijk America/Curacao
America/Lower_Princes America/Curacao
America/Nipigon America/Montreal
America/Pangnirtung America/Iqaluit
America/Port_of_Spain America/Marigot
America/Rio_Branco America/Porto_Acre
America/Santa_Isabel America/Ensenada
America/Shiprock America/Denver
America/St_Barthelemy America/Marigot
America/Thunder_Bay America/Montreal
America/Tijuana America/Ensenada
America/Toronto America/Montreal
America/Virgin America/St_Thomas
America/Winnipeg America/Rainy_River
America/Yellowknife America/Edmonton
Asia/Harbin Asia/Chongqing
Asia/Shanghai Asia/Chongqing
Asia/Tel_Aviv Asia/Jerusalem
Asia/Ulaanbaatar Asia/Choibalsan
Asia/Urumqi Asia/Kashgar
Atlantic/Jan_Mayen Arctic/Longyearbyen
Australia/Hobart Australia/Currie
Australia/Sydney Australia/Canberra
Australia/Yancowinna Australia/Broken_Hill
Etc/GMT+0 Etc/GMT
Etc/GMT-0 Etc/GMT
Etc/GMT0 Etc/GMT
Etc/Greenwich Etc/GMT
Etc/UTC Etc/UCT
Etc/Universal Etc/UCT
Etc/Zulu Etc/UCT
Europe/Istanbul Asia/Istanbul
Europe/London Europe/Belfast
Europe/Mariehamn Europe/Helsinki
Europe/Nicosia Asia/Nicosia
Europe/Oslo Arctic/Longyearbyen
Europe/Podgorica Europe/Belgrade
Europe/Prague Europe/Bratislava
Europe/San_Marino Europe/Rome
Europe/Tiraspol Europe/Chisinau
Europe/Vatican Europe/Rome
Europe/Zurich Europe/Busingen
GMT Etc/GMT
Pacific/Johnston Pacific/Honolulu
Pacific/Samoa Pacific/Pago_Pago
Pacific/Yap Pacific/Chuuk
UTC Etc/UCT"

end StaticSite.ZoneData
