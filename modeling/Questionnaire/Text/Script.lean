import Questionnaire.Text.Ranges

/-!
# Scripts

The script that each character belongs to, and the scripts that it is used with.
-/

namespace Questionnaire.Text.Script

/-- The short and the long name of each script, with its characters. -/
def table : List (String × String × List String) :=
  [("Adlm", "Adlam",
    ["2olc.23 4.9 4.1"]),
   ("Aghb", "Caucasian_Albanian",
    ["1flc.1f b"]),
   ("Ahom", "Ahom",
    ["1j40.q 2.e 4.m"]),
   ("Arab", "Arabic",
    ["16o.4 1.5 1.d 1.2 1.v 1.9 b.p 1.2z 1.x 28.1b 6o.u 1.1 5.22 1.s 1bv4.36 g.a2 2.27 2.1h 7 w.f 34.4",
     "1.3q 31f.u 1v.2 1j.3 181s.3 1.q 1.1 1 2 1.9 1.3 1 1 6 4 1 1 1.2 1.1 1 2 1 1 1 1 1.1 1 2.3 1.6 1.3",
     "1.3 1 1.9 1.g 5.2 1.4 1.g 1g.1"]),
   ("Armi", "Imperial_Aramaic",
    ["1g74.l 1.8"]),
   ("Armn", "Armenian",
    ["10x.11 2.1d 2.2 1chv.4"]),
   ("Avst", "Avestan",
    ["1gqo.1h 3.6"]),
   ("Bali", "Balinese",
    ["5c0.24 1.1d"]),
   ("Bamu", "Bamum",
    ["www.2f 124o.fs"]),
   ("Bass", "Bassa_Vah",
    ["1zo0.t 2.5"]),
   ("Batk", "Batak",
    ["5hc.1f 8.3"]),
   ("Beng", "Bengali",
    ["1vk.3 1.7 2.1 2.l 1.6 1 3.3 2.8 2.1 2.3 8 4.1 1.4 2.o"]),
   ("Bhks", "Bhaiksuki",
    ["1k3k.8 1.18 1.d a.s"]),
   ("Bopo", "Bopomofo",
    ["kq.1 93t.16 34.v"]),
   ("Brah", "Brahmi",
    ["1hq8.25 4.z 9"]),
   ("Brai", "Braille",
    ["7wg.73"]),
   ("Bugi", "Buginese",
    ["54w.r 2.1"]),
   ("Buhd", "Buhid",
    ["4lc.j"]),
   ("Cakm", "Chakma",
    ["1hxc.1g 1.h"]),
   ("Cans", "Canadian_Aboriginal",
    ["3y8.hr fk.1x 1ewq.f"]),
   ("Cari", "Carian",
    ["1f34.1c"]),
   ("Cham", "Cham",
    ["xkw.1i 9.d 2.9 2.3"]),
   ("Cher", "Cherokee",
    ["3vk.2d 2.5 twy.27"]),
   ("Chrs", "Chorasmian",
    ["1ho0.r"]),
   ("Copt", "Coptic",
    ["rm.d 80g.37 5.6"]),
   ("Cpmn", "Cypro_Minoan",
    ["1nyo.2q"]),
   ("Cprt", "Cypriot",
    ["1g5c.5 2 1.17 1.1 3 2"]),
   ("Cyrl", "Cyrillic",
    ["sg.3o 2.4o 4ls.a 4g 24 38n.v nr4.2n ham.1 18n4.1p x"]),
   ("Deva", "Devanagari",
    ["1s0.28 4.e 2.p vhc.v mio.9"]),
   ("Diak", "Dives_Akuru",
    ["1ji8.6 2 2.7 1.1 1.t 1.1 2.b 9.9"]),
   ("Dogr", "Dogra",
    ["1jb4.1n"]),
   ("Dsrt", "Deseret",
    ["1fcw.27"]),
   ("Dupl", "Duployan",
    ["2fpc.2y 5.c 3.8 7.9 2.3"]),
   ("Egyp", "Egyptian_Hieroglyphs",
    ["1o1s.ut a.32y"]),
   ("Elba", "Elbasan",
    ["1fk0.13"]),
   ("Elym", "Elymaic",
    ["1hpc.m"]),
   ("Ethi", "Ethiopic",
    ["3k0.20 1.3 2.6 1 1.3 2.14 1.3 2.w 1.3 2.6 1 1.3 2.e 1.1k 1.3 2.1u 2.v 3.p 546.m 9.6 1.6 1.6 1.6 1.6",
     "1.6 1.6 1.6 opu.5 2.5 2.5 9.6 1.6 1qk1.6 1.3 1.1 1.e"]),
   ("Geor", "Georgian",
    ["3a8.11 1 5 2.16 1.3 2a8.16 2.2 37k.11 1 5"]),
   ("Glag", "Glagolitic",
    ["8ow.2n 2e1s.6 1.g 2.6 1.1 1.4"]),
   ("Gong", "Gunjala_Gondi",
    ["1kdc.5 1.1 1.10 1.1 1.5 7.9"]),
   ("Gonm", "Masaram_Gondi",
    ["1kao.6 1.1 1.17 3 1.1 1.8 8.9"]),
   ("Goth", "Gothic",
    ["1f74.q"]),
   ("Gran", "Grantha",
    ["1ibk.3 1.7 2.1 2.l 1.6 1.1 1.4 2.8 2.1 2.2 2 6 5.6 2.6 3.4"]),
   ("Grek", "Greek",
    ["og.3 1.2 2.3 1 4 1 1.2 1 1.j 1.1q e.f 4yu.4 1e.4 4.4 2c 8w.l 2.5 2.11 2.5 2.7 1 1 1 1.u 2.1g 1.e 1.d",
     "2.5 1.i 2.2 1.8 87 rb2 gyi.26 h 155r.1x"]),
   ("Gujr", "Gujarati",
    ["22p.2 1.8 1.2 1.l 1.6 1.1 1.4 2.9 1.2 1.2 2 f.3 2.b 7.6"]),
   ("Guru", "Gurmukhi",
    ["1z5.2 1.5 4.1 2.l 1.6 1.1 1.1 1.1 2 1.4 4.1 2.2 3 7.3 1 7.g"]),
   ("Hang", "Hangul",
    ["3cw.73 5ym.1 75.2l 35.u 1t.u nhd.s hv.8mb c.m 4.1c 7tw.u 3.5 2.5 2.5 2.2"]),
   ("Hani", "Han",
    ["96o.p 1.2g c.5x 1b 1 p.8 e.3 qs.533 1s.g73 hkw.a5 2.2x n48.1 c.1 sge.wyn w.37d 6.65 2.4g1 e.5rk f.h9",
     "1wi.f1 15u.3t6 5.38f"]),
   ("Hano", "Hanunoo",
    ["4kg.k"]),
   ("Hatr", "Hatran",
    ["1gbk.i 1.1 5.4"]),
   ("Hebr", "Hebrew",
    ["13l.1i 8.q 4.5 1cfc.p 1.4 1 1.1 1.1 1.9"]),
   ("Hira", "Hiragana",
    ["9j5.2d 6.2 23q9.7y i t.2 crx"]),
   ("Hluw", "Anatolian_Hieroglyphs",
    ["1s00.g6"]),
   ("Hmng", "Pahawh_Hmong",
    ["1zpc.1x a.9 1.6 1.k 5.i"]),
   ("Hmnp", "Nyiakeng_Puachue_Hmong",
    ["2n0g.18 3.d 2.9 4.1"]),
   ("Hung", "Old_Hungarian",
    ["1h1c.1e d.1e 7.5"]),
   ("Ital", "Old_Italic",
    ["1f5s.z 9.2"]),
   ("Java", "Javanese",
    ["xhc.25 2.9 4.1"]),
   ("Kali", "Kayah_Li",
    ["xds.19 1"]),
   ("Kana", "Katakana",
    ["9lt.2h 2.2 6o.f 5s.1a 1.2f 14b2.9 1.18 ytu.3 1.6 1.1 1 7z.2 1e e.3"]),
   ("Kawi", "Kawi",
    ["1kow.g 1.14 3.s"]),
   ("Khar", "Kharoshthi",
    ["1gjk.3 1.1 5.7 1.2 1.s 2.2 4.9 7.8"]),
   ("Khmr", "Khmer",
    ["4n4.2l 2.9 6.9 di.v"]),
   ("Khoj", "Khojki",
    ["1i4g.h 1.1a"]),
   ("Kits", "Khitan_Small_Script",
    ["20o4 5cr.d1 15"]),
   ("Knda", "Kannada",
    ["2gw.c 1.2 1.m 1.9 1.4 2.8 1.2 1.3 7.1 6.1 1.3 2.9 1.2"]),
   ("Kthi", "Kaithi",
    ["1hts.1u a"]),
   ("Lana", "Tai_Tham",
    ["55s.1q 1.s 2.a 6.9 6.d"]),
   ("Laoo", "Lao",
    ["2v5.1 1 1.4 1.n 1 1.m 2.4 1 1.6 1.9 2.3"]),
   ("Latn", "Latin",
    ["1t.p 6.p 1b f 5.m 1.u 1.cg 13.4 55n.11 6.1c 5.3 5.c 1.1x 1t.73 a9 d g.c 3x.1 6 r h.14 253.v o82.2t",
     "3.1u 2.1 1 1.7 l.d mo.16 1.8 1.3 fpy.6 t6.p 6.p 1lx.5 1.15 1.8 16it.u 6.5"]),
   ("Lepc", "Lepcha",
    ["5j4.1j 3.e 3.2"]),
   ("Limb", "Limbu",
    ["4xs.u 1.b 4.b 4 3.b"]),
   ("Lina", "Linear_A",
    ["1fr4.8m 9.l a.7"]),
   ("Linb", "Linear_B",
    ["1ekg.b 1.p 1.i 1.1 1.e 2.d y.3e"]),
   ("Lisu", "Lisu",
    ["wk0.1b o8g"]),
   ("Lyci", "Lycian",
    ["1f28.s"]),
   ("Lydi", "Lydian",
    ["1gdc.p 5"]),
   ("Mahj", "Mahajani",
    ["1hzk.12"]),
   ("Maka", "Makasar",
    ["1ko0.o"]),
   ("Mand", "Mandaic",
    ["1mo.r 2"]),
   ("Mani", "Manichaean",
    ["1gow.12 4.b"]),
   ("Marc", "Marchen",
    ["1k6o.v 2.l 1.d"]),
   ("Medf", "Medefaidrin",
    ["20cg.2i"]),
   ("Mend", "Mende_Kikakui",
    ["2oe8.5g 2.f"]),
   ("Merc", "Meroitic_Cursive",
    ["1ggw.n 4.j 2.19"]),
   ("Mero", "Meroitic_Hieroglyphs",
    ["1gg0.v"]),
   ("Mlym", "Malayalam",
    ["2kg.c 1.2 1.1e 1.2 1.5 4.f 2.p"]),
   ("Modi", "Modi",
    ["1iww.1w b.9"]),
   ("Mong", "Mongolian",
    ["4qo.1 2 1.j 6.2g 7.16 1e45.c"]),
   ("Mroo", "Mro",
    ["1zk0.u 1.9 4.1"]),
   ("Mtei", "Meetei_Mayek",
    ["xr4.m 5l.19 2.9"]),
   ("Mult", "Multani",
    ["1i80.6 1 1.3 1.e 1.a"]),
   ("Mymr", "Myanmar",
    ["35s.4f u9s.u 2p.v le8.j"]),
   ("Nagm", "Nag_Mundari",
    ["2nrk.15"]),
   ("Nand", "Nandinagari",
    ["1jmo.7 2.19 2.a"]),
   ("Narb", "Old_North_Arabian",
    ["1gn4.v"]),
   ("Nbat", "Nabataean",
    ["1g8w.u 8.8"]),
   ("Newa", "Newa",
    ["1iio.2j 1.4"]),
   ("Nkoo", "Nko",
    ["1j4.1m 2.2"]),
   ("Nshu", "Nushu",
    ["20o1 cy6.az"]),
   ("Ogam", "Ogham",
    ["4g0.s"]),
   ("Olck", "Ol_Chiki",
    ["5lc.1b"]),
   ("Orkh", "Old_Turkic",
    ["1gxs.20"]),
   ("Orya", "Oriya",
    ["269.2 1.7 2.1 2.l 1.6 1.1 1.4 2.8 2.1 2.2 7.2 4.1 1.4 2.h"]),
   ("Osge", "Osage",
    ["1fhs.z 4.z"]),
   ("Osma", "Osmanya",
    ["1fgg.t 2.9"]),
   ("Ougr", "Old_Uyghur",
    ["1hm8.p"]),
   ("Palm", "Palmyrene",
    ["1g80.v"]),
   ("Pauc", "Pau_Cin_Hau",
    ["1juo.1k"]),
   ("Perm", "Old_Permic",
    ["1f80.16"]),
   ("Phag", "Phags_Pa",
    ["x8g.1j"]),
   ("Phli", "Inscriptional_Pahlavi",
    ["1gtc.i 5.7"]),
   ("Phlp", "Psalter_Pahlavi",
    ["1gu8.h 7.3 c.6"]),
   ("Phnx", "Phoenician",
    ["1gcg.r 3"]),
   ("Plrd", "Miao",
    ["20hs.22 4.1k 7.g"]),
   ("Prti", "Inscriptional_Parthian",
    ["1gsg.l 2.7"]),
   ("Rjng", "Rejang",
    ["xf4.z b"]),
   ("Rohg", "Hanifi_Rohingya",
    ["1h4w.13 8.9"]),
   ("Runr", "Runic",
    ["4gw.22 3.a"]),
   ("Samr", "Samaritan",
    ["1kw.19 2.e"]),
   ("Sarb", "Old_South_Arabian",
    ["1gm8.v"]),
   ("Saur", "Saurashtra",
    ["xa8.1x 8.b"]),
   ("Sgnw", "SignWriting",
    ["2l8g.i3 f.4 1.e"]),
   ("Shaw", "Shavian",
    ["1ff4.1b"]),
   ("Shrd", "Sharada",
    ["1i0w.2n"]),
   ("Sidd", "Siddham",
    ["1itc.1h 2.11"]),
   ("Sind", "Khudawadi",
    ["1i9c.1m 5.9"]),
   ("Sinh", "Sinhala",
    ["2o1.2 1.h 3.n 1.8 1 2.6 3 4.5 1 1.7 6.9 2.2 1fcc.j"]),
   ("Sogd", "Sogdian",
    ["1hkg.15"]),
   ("Sogo", "Old_Sogdian",
    ["1hj4.13"]),
   ("Sora", "Sora_Sompeng",
    ["1hw0.o 7.9"]),
   ("Soyo", "Soyombo",
    ["1jrk.2a"]),
   ("Sund", "Sundanese",
    ["5fk.1r 74.7"]),
   ("Sylo", "Syloti_Nagri",
    ["x6o.18"]),
   ("Syrc", "Syriac",
    ["1ds.d 1.1n 2.2 7k.a"]),
   ("Tagb", "Tagbanwa",
    ["4m8.c 1.2 1.1"]),
   ("Takr", "Takri",
    ["1j0g.1l 6.9"]),
   ("Tale", "Tai_Le",
    ["500.t 2.4"]),
   ("Talu", "New_Tai_Lue",
    ["51c.17 4.p 6.a 3.1"]),
   ("Taml", "Tamil",
    ["29u.1 1.5 3.2 1.3 3.1 1 1.1 3.1 3.2 3.b 4.4 3.2 1.3 2 6 e.k 1ih1.1d d"]),
   ("Tang", "Tangut",
    ["20o0 v.4qf 8.lb e8.8"]),
   ("Tavt", "Tai_Viet",
    ["xog.1u o.4"]),
   ("Telu", "Telugu",
    ["2dc.c 1.2 1.m 1.f 2.8 1.2 1.3 7.1 1.2 2 2.3 2.9 7.8"]),
   ("Tfng", "Tifinagh",
    ["8xc.1j 7.1 e"]),
   ("Tglg", "Tagalog",
    ["4jk.l 9"]),
   ("Thaa", "Thaana",
    ["1hc.1d"]),
   ("Thai", "Thai",
    ["2rl.1l 5.r"]),
   ("Tibt", "Tibetan",
    ["2yo.1z 1.z 4.12 1.z 1.e 1.6 4.1"]),
   ("Tirh", "Tirhuta",
    ["1im8.1z 8.9"]),
   ("Tnsa", "Tangsa",
    ["1zlc.26 1.9"]),
   ("Toto", "Toto",
    ["2nbk.u"]),
   ("Ugar", "Ugaritic",
    ["1f9c.t 1"]),
   ("Vaii", "Vai",
    ["wlc.8b"]),
   ("Vith", "Vithkuqi",
    ["1fn4.a 1.e 1.6 1.1 1.a 1.e 1.6 1.1"]),
   ("Wara", "Warang_Citi",
    ["1jfk.2a c"]),
   ("Wcho", "Wancho",
    ["2ncw.1l 5"]),
   ("Xpeo", "Old_Persian",
    ["1fa8.z 4.d"]),
   ("Xsux", "Cuneiform",
    ["1kw0.pl 2u.32 1.4 b.5f"]),
   ("Yezi", "Yezidi",
    ["1hfk.15 1.2 2.1"]),
   ("Yiii", "Yi",
    ["vls.wc 3.1i"]),
   ("Zanb", "Zanabazar_Square",
    ["1jpc.1z"]),
   ("Zinh", "Inherited",
    ["lc.33 7p.1 ck.a q kg.3 3ff.u e9.2 1.c 1.6 4 6 3.1 5i.1r ek.1 5e.w 309.3 2z.1 14kl.f g.d r3 6a 38a",
     "1138.19 2.m f4.2 h.7 2.6 u.3 h45u.6n"]),
   ("Zyyy", "Common",
    ["0.1s q.5 q.1a 1.e 1.4 n v ch.12 5.4 2.j 38 9 6 1 hp 6 e 3 w 4c ec 3l.1 yh b9.3 82 167.2 1z.1 5n.1 1",
     "y5 d 7.3 1.5 1.2 2 lh.b 2.2e 1.a 3.a 1.e h.w 1r.11 1.2 2.5 1.q 1.g 15.2 4.ih m.a l.pr 74.hf 2.v 1.2w",
     "e8.2l b6.k 1 1.o f.7 4.3 2j.1 3 2i.1 43.f w.11 9 1c.1r v.28 1b 2g.4n 534.1r hkw.x 2u.2 4l.9 6s 4g az",
     "e.1 g5u.1 5s.9 m.y 1.i 1.3 43 1.v q.5 q.a a 19.1 1s.6 1.6 a.4 76.2 4.18 3.8 28.c 1f.18 6c.q 10o4.3",
     "318.70 3.c3 6.5 40.37 1o.6t a.12 2.1p 3.g 8.1 7.t 4.1o 5x.j c.j c.2e 9.o 3r.2c 1.1y 1.1 2 2.1 2.3",
     "1.b 1 1.6 1.1s 1.3 2.7 1.6 1.r 1.3 1.4 1 3.6 1.9f 2.83 2.1d 41d.1v 24.1o jm.17 4.2r c.e 2.e 1.e 1.10",
     "a.4t 1k.p 1.1 d.17 4.8 7.1 e.5 4a.rb 4.g 3.c 3.3a 4.2m 6.b 4 f.b 4.1j 8.9 6.13 8.t 2.b 4.1 1q.9f c.d",
     "2.c 3.9 5.1j 7.e 2.a 6.8 7.42 1.2t gvlz u.2n"]),
   ("Zzzz", "Unknown",
    ["oo.1 6.3 7 1 k b1 12.1 1e.1 3 1j.7 r.3 6.a 7i 1o.1 2t.d 1n.1 1d.1 f s.1 1 b.4 v 2.4 6l 8.1 2.1 m 7",
     "1.2 4.1 9.1 2.1 4.7 1.3 2 5.1 p.1 3 6.3 2.1 m 7 2 2 2.1 1 5.3 2.1 3.2 1.6 4 1.6 h.9 3 9 3 m 7 2 5.1",
     "a 3 3.1 1.e 4.1 c.6 7 3 8.1 2.1 m 7 2 5.1 9.1 2.1 3.6 3.3 2 5.1 i.9 2 6.2 3 4.2 2 1 2.2 2.2 3.2 c.3",
     "5.2 3 4.1 1.5 1.d l.4 d 3 n g.1 9 3 4.6 2 3.1 1.1 4.1 a.6 m 3 n a 5.1 9 3 4.6 2.5 2 4.1 a 3.b d 3 1f",
     "3 6.3 g.1 q 3 i.2 o 9 1.1 7.2 1.3 6 1 8.5 a.1 3.b 1m.3 t.10 2 1 5 o 1 n.1 5 1 7 a.1 4.v 20 10.3 13",
     "10 f d.10 5i 1.4 1.1 ah 4.1 7 1 4.1 15 4.1 x 4.1 7 1 4.1 f 1l 4.1 1v.1 w.2 q.5 2e.1 6.1 il.2 2h.6",
     "m.8 o.8 k.b d 3 2.b 2m.1 a.5 a.5 q.5 2h.6 17.4 1y.9 v c.3 c.3 1.2 16.1 5.a 18.3 q.5 b.2 1q.1 1t t.1",
     "b.5 a.5 e.1 v.1c 25 4m.7 1o.2 f.2 1q.4 17.1 b.7 17.4 eu.1 6.1 12.1 6.1 8 1 1 1 v.1 1h f e.1 6 j.1 3",
     "9 2t c.1 r d.2 x.e x.e 3w.3 ii.l b.k 1ec.1 w 9p.4 19 1.4 1.1 1k.6 2.d o.8 7 7 7 7 7 7 7 7 3i.x q",
     "2h.b 5y.p 28 2e.1 2v.4 17 2m 2e.8 1c mlp.2 1j.8 9o.j 54.7 5q.1 2 1 8.k 1n.2 a.5 1k.7 1y.7 c.5 38.a",
     "u.2 26 b.3 x 1j.8 e.1 a.1 2v.n s.9 6.1 6.1 6.8 7 7 1o.3 3i.1 a.5 8mc.b n.3 1d.3 1kw.4xr a6.1 2y.11",
     "7.b 5.4 q 5 1 2 2 3h.f cd.1 1i.6 1.v 16.5 1f j 4.3 5 3r.1 1 5a.2 6.1 6.1 6.1 3.2 7 7.9 5.1 c q j 2",
     "f.1 e.x 3f.4 3.3 19.2 2g d.2 1.1a 1a.3l t.2 1d.e s.3 10.8 u.4 17.4 u 11.3 e.15 4e.1 a.5 10.3 10.3",
     "14.7 1g.a c f 7 2 b f 7 2.2 1g.b 8n.8 m.9 8.n 6 16 9.1w 6.1 1 18 2.2 1.1 n 20.7 9.1b j 2.4 x.2 r.4",
     "1.1r 1k.3 k.1 1e 2.4 8 3 t.1 3.3 a.6 9.6 1s.v 13.3 c.8 1i.2 t.1 r.4 q.6 4.b 7.27 21.1i 1f.c 1f.6",
     "1a.7 a.5 12.2 t.7 2.5r v 16 3.1 2.f 3.1i 18.7 16.l q.11 s.j n.8 26.3 10.8 1w.9 1.1 p.6 a.5 1h i.7",
     "13.8 2o k.a i 1b.1p 7 1 4 f b.5 1n.4 a.5 4 8.1 2.1 m 7 2 5 a.1 2.1 3.1 1.5 1.4 7.1 7.2 5.a a 1.1 1",
     "12 a 1.1 1 4 a 2.7 2.s 2k 5.t 20.7 a.4l 1i.1 12.x 1x.a a.5 d.i 1m.5 a.5 k.r r.1 f.3 n.54 1o.2r 2b.b",
     "8.1 1.1 8 2 u 2.1 c.8 a.1x 8.1 1a.1 b.q 20.7 2b.c 21.6 a.51 y.d a.5 9 19 e.9 t.2 w.1 m e.20 7 2 18.2",
     "1 2 9.7 a.5 6 2 11 2 6.6 a.8l p.6 h 15.2 t.2c 1.e 1e.c pn.2t 33 5.a 5g.217 2r.c uu.9 32z.4 g7.5a0",
     "1m.1c5 ft.6 v a.3 29 a.5 u.1 6.9 1y.9 a 7 l.4 j.bz 1m.5h 2j.2s 23.3 1l.6 h.1r 5.a 2.d 4qg.7 ye.14",
     "a.6w6 4 7 2 83.e 1.s 3.1 1.d 4.7 b0.1s3 2z.4 d.2 9.6 a.1 8.317 71.2 c4.5 6.1r 1a.1 n.8 38.1n 6u.9",
     "13.1 5e.k 1y.3d k.b k.b 2f.8 p.3q 2d 1z 2.1 1.1 2.1 4 c 1 7 1t 4.1 8 7 s 4 5 1.2 7 9g.1 84.1 ji.e 5",
     "f.un v.5 6.5w 7 h.1 7 2 5.4 1q.w 1.33 19.2 e.1 a.3 2.8v v.g 1m.4 1.cv 16.5x 17.3 1.db 7 4 2 f 5h.1",
     "g.14 24.3 a.3 2.ls 1w.23 1p.5d 4 r 2 1.1 1 a 4 1 1.5 1.3 1 1 1 3 2 1.1 1 1 1 1 1 2 1.1 4 7 4 4 1 a",
     "h.4 3 5 h.1f 2.7h 18.3 2s.b f.1 f f 11.9 4u.1j t.c 18.3 9.6 2.d 6.49 rc.3 h.2 d.2 3b.3 2n.5 c.3 1.e",
     "c.3 1k.7 a.5 14.7 u.1 c.3 2.1p 9g.b e.1 d.2 a.4 1k.6 f.1 b.5 9.6 43 2u.sl wyo.v 37e.5 66.1 4g2.d",
     "5rl.e ha.1wh f2.15t 3t7.4 38g.f974 1.t 2o.3j 6o.47bj"]),
   ("Gara", "Garay",
    ["1h6o.11 3.s 8.1"]),
   ("Gukh", "Gurung_Khema",
    ["1xq8.1l"]),
   ("Krai", "Kirat_Rai",
    ["205c.1l"]),
   ("Onao", "Ol_Onal",
    ["2nyo.16 4"]),
   ("Sunu", "Sunuwar",
    ["1k1s.x e.9"]),
   ("Todr", "Todhri",
    ["1fpc.1f"]),
   ("Tutg", "Tulu_Tigalari",
    ["1if4.9 1 2 1.11 1.9 1 2 1.3 1.9 1.1 8.1"])]

/-- Where a script is used beyond its own characters: the long name and all characters it is used with. -/
def extensionTable : List (String × List String) :=
  [("Adlam",
    ["17j w 55a 2r5 2fge.23 4.9 4.1"]),
   ("Caucasian_Albanian",
    ["lg 18 18 1exd.1f b"]),
   ("Arabic",
    ["16o.4 1.5y 1.x 28.1b 6o.u 1.1 5.22 1.s 4lr 2r5 14i6.36 g.cc 2.1h 7 w.f 34.4 1.3q rn.r 290.u 1v.2",
     "1j.3 181s.3 1.q 1.1 1 2 1.9 1.3 1 1 6 4 1 1 1.2 1.1 1 2 1 1 1 1 1.1 1 2.3 1.6 1.3 1.3 1 1.9 1.g 5.2",
     "1.4 1.g 1g.1"]),
   ("Armenian",
    ["lk fc.11 2.1d 2.2 1chv.4"]),
   ("Avestan",
    ["53 8zc.1 17m6.1h 3.6"]),
   ("Bengali",
    ["jg 1as.1 h.1 q.3 1.7 2.1 2.l 1.6 1 3.3 2.8 2.1 2.3 8 4.1 1.4 2.o 3pt 1 2.1 1 8 8 2 4 2.2 rnd"]),
   ("Bopomofo",
    ["jr 1.2 d g.1 8wl.2 4.9 1.c a.3 2 6 5f 9.16 34.v 14ed.1 7u.4"]),
   ("Buginese",
    ["54w.r 2.1 sdr"]),
   ("Buhid",
    ["4l1.1 9.j"]),
   ("Chakma",
    ["1ye.9 18w.9 1epi.1g 1.h"]),
   ("Carian",
    ["53 68y 2 2qb 15ym.1c"]),
   ("Cherokee",
    ["lc.2 1 6.1 m.1 b.1 38u.2d 2.5 twy.27"]),
   ("Coptic",
    ["53 g8 3.1 1 30.1 30.d 80g.37 5.6 7r 1614.r"]),
   ("Cypro_Minoan",
    ["1erk.1 972.2q"]),
   ("Cypriot",
    ["1erk.2 4.18 3.8 1c0.5 2 1.17 1.1 3 2"]),
   ("Cyrillic",
    ["jg 1v.2 1 1 1 2 5 6m.8f 4ls.a 4g 24 3j 353.v 1v np8.2n ham.1 18n4.1p x"]),
   ("Devanagari",
    ["jg 18j.2a 2.16 3tc.12 1.1 s6 qpr.9 4m.v mio.9"]),
   ("Dogra",
    ["1us.b vcw.9 m2u.1n"]),
   ("Duployan",
    ["53 gf.1 1 o.1 8if 26kj.2y 5.c 3.8 7.9 2.7"]),
   ("Elbasan",
    ["53 gd 1eyi.13"]),
   ("Ethiopic",
    ["lq 2y9.20 1.3 2.6 1 1.3 2.14 1.3 2.w 1.3 2.6 1 1.3 2.e 1.1k 1.3 2.1u 2.v 3.p 546.m 9.6 1.6 1.6 1.6",
     "1.6 1.6 1.6 1.6 opu.5 2.5 2.5 9.6 1.6 1qk1.6 1.3 1.1 1.e"]),
   ("Georgian",
    ["53 y9 26u.11 1 5 2.1b 2a8.16 2.2 pm 2hx.11 1 5 77"]),
   ("Glagolitic",
    ["53 gb 1 am 2 75 29d 31a 2at.2n df nqj 1pxs.6 1.g 2.6 1.1 1.4"]),
   ("Gunjala_Gondi",
    ["53 1po.1 1iii.5 1.1 1.10 1.1 1.5 7.9"]),
   ("Masaram_Gondi",
    ["1us.1 1ifu.6 1.1 1.17 3 1.1 1.8 8.9"]),
   ("Gothic",
    ["53 gc.1 2 14 1eke.q"]),
   ("Grantha",
    ["1u9.1 h.1 hs.d 3bw 1.1 u.2 3.1 s6 1btb.3 1.7 2.1 2.l 1.6 1.1 1.4 1.9 2.1 2.2 2 6 5.6 2.6 3.4 2fv.1 1"]),
   ("Greek",
    ["53 g8.1 2 1 1 a 1a 2 16.7 2.3 1 4 1 1.2 1 1.j 1.1q e.f 4yu.4 1e.4 4.4 2c.2 8u.l 2.5 2.11 2.5 2.7 1 1",
     "1 1.u 2.1g 1.e 1.d 2.5 1.i 2.2 1.8 2m 5k rb2 gyi.26 h 155r.1x"]),
   ("Gujarati",
    ["1u9.1 h.1 7v.2 1.8 1.2 1.l 1.6 1.1 1.4 2.9 1.2 1.2 2 f.3 2.b 7.6 v1s.9"]),
   ("Gurmukhi",
    ["1u9.1 h.1 4b.2 1.5 4.1 2.l 1.6 1.1 1.1 1.1 2 1.4 4.1 2.2 3 7.3 1 7.g v5l.9"]),
   ("Hangul",
    ["3cw.73 5xd.2 4.9 1.c e.2 6 5f 1h.2l 35.u 1t.u nhd.s hv.8mb c.m 4.1c 7k9.1 7u.4 1m.u 3.5 2.5 2.5 2.2"]),
   ("Han",
    ["53 91k.p 1.2g c.5x q.f 1.2 1.c 1.c 1.c 2 6.8 57 44.f w.11 9 1c.13 1k.1c f.b 1f 2g.o a.4 2o.u 1.533",
     "1s.g73 1ds.7 g6w.a5 2.2x ob.1 7u.4 m7w.1 c.1 jn2.h 63i.1 2pa.wyn w.37d 6.65 2.4g1 e.5rk f.h9 1wi.f1",
     "15u.3t6 5.38f"]),
   ("Hanunoo",
    ["4kg.m"]),
   ("Hebrew",
    ["lj.1 i0.1i 8.q 4.5 1cfc.p 1.4 1 1.1 1.1 1.9"]),
   ("Hiragana",
    ["9hd.2 4.9 1.c g.5 1 4.1 3.2d 2.7 2i.1 14js.1 7u.4 a 19.1 yu9.7y i t.2 crx"]),
   ("Old_Hungarian",
    ["6e2 2 2qb f 17we.1e d.1e 7.5"]),
   ("Javanese",
    ["xhc.25 1.a 4.1"]),
   ("Kayah_Li",
    ["xds.1b"]),
   ("Katakana",
    ["lh t 8v1.2 4.9 1.c g.5 1 4.1 2j.3 3.2n 6o.f 5s.1a 1.2f 1431.1 7u.1q yts.3 1.6 1.1 1 7z.2 1e e.3"]),
   ("Khojki",
    ["25i.9 v28.9 kw6.h 1.1a"]),
   ("Kannada",
    ["1u9.1 h.1 m2.c 1.2 1.m 1.9 1.4 2.8 1.2 1.3 7.1 6.1 1.3 2.9 1.2 34s 1.1 6 n 1 ri3.5"]),
   ("Kaithi",
    ["1uu.9 79d o3i.9 kli.1u a"]),
   ("Latin",
    ["1t.p 6.p 1b c 2 5.m 1.u 1.cg 3 a 1.2 1 9 1 6.4 r.e 1.1 1 f.2 7.1 1.1 12 5 4.c 7p.1 y2.1 1ig 2dg.11",
     "6.1c 5.3 5.c 1.1x 1l 7.73 8f 1t d g.c 2b 1l.1 6 r h.14 253.v bb nvs.7 q.2t 3.1u 2.1 1 1.7 l.d 8e",
     "e9.16 1.8 1.3 fpy.6 t6.p 6.p 1lx.5 1.15 1.8 16it.u 6.5"]),
   ("Limbu",
    ["1ut 32y.u 1.b 4.b 4 3.b"]),
   ("Linear_A",
    ["1err.18 y4.8m 9.l a.7"]),
   ("Linear_B",
    ["1ekg.b 1.p 1.i 1.1 1.e 2.d y.3e 5.2 4.18 3.8"]),
   ("Lisu",
    ["jg g 8xo.1 n2c.1b o8g"]),
   ("Lycian",
    ["6e2 18o5.s"]),
   ("Lydian",
    ["53 8zd 178u.p 5"]),
   ("Mahajani",
    ["53 1po.b vcw.9 kra.12"]),
   ("Mandaic",
    ["18g e7.r 2"]),
   ("Manichaean",
    ["18g 1fgf.12 4.b"]),
   ("Meroitic_Hieroglyphs",
    ["6e5 1a1u.v"]),
   ("Malayalam",
    ["1u9.1 h.1 pm.c 1.2 1.1e 1.2 1.5 4.f 2.p 316 n ri5.2"]),
   ("Modi",
    ["x80.9 lom.1w b.9"]),
   ("Mongolian",
    ["4qo.p 6.2g 7.16 1hg 34h.1 5.3 19hw.c"]),
   ("Multani",
    ["21y.9 1g5s.6 1 1.3 1.e 1.a"]),
   ("Myanmar",
    ["35s.4f u4u 4x.u 2p.v le8.j"]),
   ("Nandinagari",
    ["1u9 i.1 ow.9 35l 8 7 rhx.5 mei.7 2.19 2.a"]),
   ("Newa",
    ["1u9.1 3uq 1.1 9 6 1 1 1csy.2j 1.4"]),
   ("Nko",
    ["170 e 3 bk.1m 2.2 1cfy.1"]),
   ("Old_Turkic",
    ["6e2 2qd 17tb.20"]),
   ("Oriya",
    ["1u9.1 h.1 bf.2 1.7 2.1 2.l 1.6 1.1 1.4 2.8 2.1 2.2 7.2 4.1 1.4 2.h 3fm n"]),
   ("Osage",
    ["ld 2 6 24 1etz.z 4.z"]),
   ("Old_Uyghur",
    ["18g 1fht vx.p"]),
   ("Old_Permic",
    ["53 g8 5.2 a a7 1ebw.16"]),
   ("Phags_Pa",
    ["4qq.1 1 1m1 34i nr1.1j"]),
   ("Psalter_Pahlavi",
    ["18g 1flr.h 7.3 c.6"]),
   ("Hanifi_Rohingya",
    ["170 e 3 w 43 1fsb.13 8.9"]),
   ("Runic",
    ["4gw.2g"]),
   ("Samaritan",
    ["1kw.19 2.e 7hu"]),
   ("Shavian",
    ["53 1fa0.1b"]),
   ("Sharada",
    ["1u9 3ut 1 2.1 2 9 2 ria.5 2 ksn.2n"]),
   ("Khudawadi",
    ["1us.1 vd6.9 l12.1m 5.9"]),
   ("Sinhala",
    ["1us.1 t7.2 1.h 3.n 1.8 1 2.6 3 4.5 1 1.7 6.9 2.2 2yl 1cdq.j"]),
   ("Sogdian",
    ["18g 1gbz.15"]),
   ("Syloti_Nagri",
    ["1us.1 3k.9 v80.18"]),
   ("Syriac",
    ["lf.1 2.1 1 o.2 7.1 1.1 ka e.1 2 w a.a q 3z.d 1.1n 2.2 7k.a 499 1"]),
   ("Tagbanwa",
    ["4l1.1 15.c 1.2 1.1"]),
   ("Takri",
    ["1us.1 vd6.9 ls6.1l 6.9"]),
   ("Tai_Le",
    ["lc.1 5.1 3 2lv.9 1s6.t 2.4"]),
   ("Tamil",
    ["1u9.1 h.1 f0.1 1.5 3.2 1.3 3.1 1 1.1 3.1 3.2 3.b 4.4 3.2 1.3 2 6 e.k 3bz ro8 ky5 1 1j.1 2gz.1d d"]),
   ("Tangut",
    ["9gw.f dr 1qsw v.4qf 8.lb e8.8"]),
   ("Telugu",
    ["1u9.1 h.1 ii.c 1.2 1.m 1.f 2.8 1.2 1.3 7.1 1.2 2 2.3 2.9 7.8 385.1 1 1 n"]),
   ("Tifinagh",
    ["le 1 1.3 p 8b0.1j 7.1 e"]),
   ("Tagalog",
    ["4jk.l 9 l.1"]),
   ("Thaana",
    ["170 e.1 2 1s.9 7q.1d 1cn4 a"]),
   ("Thai",
    ["jg q 17 19 24v.1l 5.r"]),
   ("Tibetan",
    ["2yo.1z 1.z 4.12 1.z 1.e 1.6 4.1 6ct.3"]),
   ("Tirhuta",
    ["1u9.1 h.1 3u7 c f ri5.9 ldy.1z 8.9"]),
   ("Toto",
    ["jg 2ms3.u"]),
   ("Yezidi",
    ["170 e 3 1s.9 1g5y.15 1.2 2.1"]),
   ("Yi",
    ["9hd.1 5.9 2.7 67 lxg.wc 3.1i hwa.4"]),
   ("Inherited",
    ["lr 2 1.e 3.6 2 2.f 1.1 1.h 1.4 1.3 168.1 3ff.u kz.1h 1 1.4 ek.1 5e.v 17o0.f g.d r3 14hu.19 2.m f4.2",
     "h.7 2.6 u.3 h45u.6n"]),
   ("Common",
    ["0.1s q.5 q.1a 1.b 1.1 1.4 n v ch.2 1.9 1 3 1.8 1 1.5 5.4 2.j 3i 6 1 hp 5z ec 124 b9.3 36v.b 2.w 1.u",
     "1.9 1.1 1.6 1.a 3.a 1.e h.w 1r.11 1.2 2.5 1.q 1.g 15.2 4.ih m.a l.pr 74.hf 2.v 1.2w e8.m 1.n 2.9 1.3",
     "1 1.p bm 3 d d l ep.n v 1d.e c.3 4h.9 5.2n v 534.1r hl4.p 2u.2 r4 e.1 gbo.9 m.k 2.b 1.i 1.3 43 1.v",
     "q.5 q.5 3j.6 1.6 a.4 b6.c 1f.18 13wj.70 3.c3 6.5 40.37 1o.6t a.12 2.1p 3.g 8.1 7.t 4.1o 5x.j c.j",
     "c.2e r.6 3r.2c 1.1y 1.1 2 2.1 2.3 1.b 1 1.6 1.1s 1.3 2.7 1.6 1.r 1.3 1.4 1 3.6 1.9f 2.83 2.1d 41d.1v",
     "24.1o jm.17 4.2r c.e 2.e 1.e 1.10 a.4t 1k.p 1.1 d.17 4.8 n.5 4a.rb 4.g 3.c 3.3a 4.2m 6.b 4 f.b 4.1j",
     "8.9 6.13 8.t 2.b 4.1 1q.9f c.d 2.c 3.9 5.1j 7.e 2.a 6.8 7.42 1.2t gvlz u.2n"]),
   ("Garay",
    ["170 e 3 1fz4.11 3.s 8.1"]),
   ("Gurung_Khema",
    ["1ut 1vve.1l"]),
   ("Ol_Onal",
    ["1us.1 2m3u.16 4"]),
   ("Sunuwar",
    ["lc.1 1 9 2 s 3 1jf2.x e.9"]),
   ("Todhri",
    ["ld 2 2 9 1 22 1f1d.1f"]),
   ("Tulu_Tigalari",
    ["2jq.9 35u 1 ri3.5 57 l1q.9 1 2 1.11 1.9 1 2 1.3 1.9 1.1 8.1"])]

end Questionnaire.Text.Script
