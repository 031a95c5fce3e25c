/-! Script extensions.

A character may be used with several scripts. A script that the table does not name is
used with its own characters only. -/
namespace RequestDispatch.Unicode

/-- The characters used with a script, where they are not just its own. -/
def scriptExtensions : List (List String × String) := [
  (["adlm", "adlam"],
    "17j 1 w 1 2ncv 24 4 a 4 2"),
  (["arab", "arabic"],
    "16o 5 1 5z 1 y 28 1c 6o v 1 2 6 22 1 t 1bv4 37 g cd 2 1i 7 1 w g 34 5 1 3r rn s 290 v 3i 3
     181s 4 1 r 1 2 1 1 2 1 1 a 1 4 1 1 1 1 6 1 4 1 1 1 1 1 1 3 1 2 1 1 2 1 1 1 1 1 1 1 1 1 1 2
     1 1 2 4 1 7 1 4 1 4 1 1 1 a 1 h 5 3 1 5 1 h 1g 2"),
  (["beng", "bengali"],
    "1u9 2 h 2 q 4 1 8 2 2 2 m 1 7 1 1 3 4 2 9 2 2 2 4 8 1 4 2 1 5 2 p 3pt 1 1 1 2 2 1 1 8 1 8
     1 2 1 4 1 2 3 rnd 1"),
  (["bopo", "bopomofo"],
    "kq 2 8wl 3 4 a 1 d a 4 2 1 6 1 5f 1 9 17 34 w 14ed 2 7u 5"),
  (["bugi", "buginese"],
    "54w s 2 2 sdr 1"),
  (["buhd", "buhid"],
    "4l1 2 9 k"),
  (["cakm", "chakma"],
    "1ye a 18w a 1epi 1h 1 i"),
  (["copt", "coptic", "qaac"],
    "rm e 80g 38 5 7 168w s"),
  (["cpmn", "cyprominoan"],
    "1erk 2 972 2r"),
  (["cprt", "cypriot"],
    "1erk 3 4 19 3 9 1c0 6 2 1 1 18 1 2 3 1 2 1"),
  (["cyrl", "cyrillic"],
    "sg 8g 4ls 9 4i 1 24 1 3j 1 353 w 1v 1 np8 2o ham 2 18n4 1q x 1"),
  (["deva", "devanagari"],
    "1s0 2b 2 17 3tc 13 1 2 s6 1 qpr a 4m w mio a"),
  (["dogr", "dogra"],
    "1us c vcw a m2u 1o"),
  (["dupl", "duployan"],
    "2fpc 2z 5 d 3 9 7 a 2 8"),
  (["geor", "georgian"],
    "3a8 12 1 1 5 1 2 1c 2a8 17 2 3 37k 12 1 1 5 1"),
  (["glag", "glagolitic"],
    "w4 1 2 1 7so 2o df 1 nqj 1 1pxs 7 1 h 2 7 1 2 1 5"),
  (["gong", "gunjalagondi"],
    "1us 2 1iii 6 1 2 1 11 1 2 1 6 7 a"),
  (["gonm", "masaramgondi"],
    "1us 2 1ifu 7 1 2 1 18 3 1 1 2 1 9 8 a"),
  (["gran", "grantha"],
    "1u9 2 h 2 hs e 3bw 1 1 2 u 3 3 2 s6 1 1btb 4 1 8 2 2 2 m 1 7 1 2 1 5 1 a 2 2 2 3 2 1 6 1 5
     7 2 7 3 5 2fv 2 1 1"),
  (["grek", "greek"],
    "n6 1 2 1 16 4 1 3 2 4 1 1 4 1 1 1 1 3 1 1 1 k 1 1r e g 4yu 5 1e 5 4 5 2c 3 8u m 2 6 2 12 2
     6 2 8 1 1 1 1 1 1 1 v 2 1h 1 f 1 e 2 6 1 j 2 3 1 9 87 1 rb2 1 gyi 27 h 1 155r 1y"),
  (["gujr", "gujarati"],
    "1u9 2 h 2 7v 3 1 9 1 3 1 m 1 7 1 2 1 5 2 a 1 3 1 3 2 1 f 4 2 c 7 7 v1s a"),
  (["guru", "gurmukhi"],
    "1u9 2 h 2 4b 3 1 6 4 2 2 m 1 7 1 2 1 2 1 2 2 1 1 5 4 2 2 3 3 1 7 4 1 1 7 h v5l a"),
  (["hang", "hangul"],
    "3cw 74 5xd 3 4 a 1 d e 3 6 1 5f 1 1h 2m 35 v 1t v nhd t hv 8mc c n 4 1d 7k9 2 7u 5 1m v 3
     6 2 6 2 6 2 3"),
  (["hani", "han"],
    "96o q 1 2h c 5y 17 3 1 d 1 d 1 d 2 1 6 9 57 1 44 g w 10 1o 14 1k 1d f c 1f 1 2g p a 5 2o v
     1 534 1s g74 1ds 8 g6w a6 2 2y ob 2 7u 5 m7w 2 c 2 jn2 i 63i 2 2pa wyo w 37e 6 66 2 4g2 e
     5rl 2e7 f2 15u 3t7 5 38g"),
  (["hano", "hanunoo"],
    "4kg n"),
  (["hira", "hiragana"],
    "9hd 3 4 a 1 d g 6 1 1 4 2 3 2e 2 8 2i 2 14js 2 7u 5 a 1 19 2 yu9 7z i 1 t 3 crx 1"),
  (["java", "javanese"],
    "xhc 26 1 b 4 2"),
  (["kali", "kayahli"],
    "xds 1c"),
  (["kana", "katakana"],
    "9hd 3 4 a 1 d g 6 1 1 4 2 2j 4 3 2o 6o g 5s 1b 1 2g 1431 2 7u 1r yts 4 1 7 1 2 1 1 7z 3 1e
     1 e 4"),
  (["khoj", "khojki"],
    "25i a v28 a kw6 i 1 1b"),
  (["knda", "kannada"],
    "1u9 2 h 2 m2 d 1 3 1 n 1 a 1 5 2 9 1 3 1 4 7 2 6 2 1 4 2 a 1 3 34s 1 1 1 7 1 n 1 1 1 ri3 6"),
  (["kthi", "kaithi"],
    "1uu a vcw a kli 1v a 1"),
  (["latn", "latin"],
    "1t q 6 q 1b 1 f 1 5 n 1 v 1 ch 13 5 3i d 7p 2 y2 2 1ig 1 2dg 12 6 1d 5 4 5 d 1 1y 1t 74 8f
     1 1t 1 d 1 g d 2b 1 1l 2 6 1 r 1 h 15 253 w o74 8 q 2u 3 1s 5 2 1 1 1 5 o e 8e 1 e9 17 1 9
     1 4 fpy 7 t6 q 6 q 1lx 6 1 16 1 9 16it v 6 6"),
  (["limb", "limbu"],
    "1ut 1 32y v 1 c 4 c 4 1 3 c"),
  (["lina", "lineara"],
    "1err 19 y4 8n 9 m a 8"),
  (["linb", "linearb"],
    "1ekg c 1 q 1 j 1 2 1 f 2 e y 3f 5 3 4 19 3 9"),
  (["mahj", "mahajani"],
    "1us c vcw a kra 13"),
  (["mand", "mandaic"],
    "18g 1 e7 s 2 1"),
  (["mani", "manichaean"],
    "18g 1 1fgf 13 4 c"),
  (["mlym", "malayalam"],
    "1u9 2 h 2 pm d 1 3 1 1f 1 3 1 6 4 g 2 q 316 1 rit 3"),
  (["modi"],
    "x80 a lom 1x b a"),
  (["mong", "mongolian"],
    "4qo q 6 2h 7 17 1hg 1 1cmo d"),
  (["mult", "multani"],
    "21y a 1g5s 7 1 1 1 4 1 f 1 b"),
  (["mymr", "myanmar"],
    "35s 4g u4u 1 4x v 2p w"),
  (["nand", "nandinagari"],
    "1us 2 ow a 35l 1 8 1 7 1 rhx 6 mei 8 2 1a 2 b"),
  (["nkoo", "nko"],
    "170 1 e 1 3 1 bk 1n 2 3 1cfy 2"),
  (["orya", "oriya"],
    "1u9 2 h 2 bf 3 1 8 2 2 2 m 1 7 1 2 1 5 2 9 2 2 2 3 7 3 4 2 1 5 2 i 3fm 1 n 1"),
  (["ougr", "olduyghur"],
    "18g 1 1fht 1 vx q"),
  (["perm", "oldpermic"],
    "w3 1 1ebw 17"),
  (["phag", "phagspa"],
    "4qq 2 1 1 shm 1k"),
  (["phlp", "psalterpahlavi"],
    "18g 1 1flr i 7 4 c 7"),
  (["rohg", "hanifirohingya"],
    "170 1 e 1 3 1 w 1 43 1 1fsb 14 8 a"),
  (["shrd", "sharada"],
    "1u9 1 3ut 1 1 1 2 2 2 1 1cbj 2o"),
  (["sind", "khudawadi"],
    "1us 2 vd6 a l12 1n 5 a"),
  (["sinh", "sinhala"],
    "1us 2 t7 3 1 i 3 o 1 9 1 1 2 7 3 1 4 6 1 1 1 8 6 a 2 3 1fcc k"),
  (["sogd", "sogdian"],
    "18g 1 1gbz 16"),
  (["sylo", "sylotinagri"],
    "1us 2 3k a v80 19"),
  (["syrc", "syriac"],
    "170 1 e 2 2 1 w 1 a b q 1 3z e 1 1o 2 3 7k b 499 1 1 1"),
  (["tagb", "tagbanwa"],
    "4l1 2 15 d 1 3 1 2"),
  (["takr", "takri"],
    "1us 2 vd6 a ls6 1m 6 a"),
  (["tale", "taile"],
    "37k a 1s6 u 2 5"),
  (["taml", "tamil"],
    "1u9 2 h 2 f0 2 1 6 3 3 1 4 3 2 1 1 1 2 3 2 3 3 3 c 4 5 3 3 1 4 2 1 6 1 e l 3bz 1 ro8 1 ky5
     1 1 1 1j 2 2gz 1e d 1"),
  (["telu", "telugu"],
    "1u9 2 h 2 ii d 1 3 1 n 1 g 2 9 1 3 1 4 7 2 1 3 2 1 2 4 2 a 7 9 38a 1 n 1"),
  (["tglg", "tagalog"],
    "4jk m 9 1 l 2"),
  (["thaa", "thaana"],
    "170 1 e 2 2 1 1s a 7q 1e 1cn4 1 a 1"),
  (["tirh", "tirhuta"],
    "1u9 2 h 2 3v0 1 ri5 a ldy 20 8 a"),
  (["yezi", "yezidi"],
    "170 1 e 1 3 1 1s a 1g5y 16 1 3 2 2"),
  (["yiii", "yi"],
    "9hd 2 5 a 2 8 67 1 lxg wd 3 1j hwa 5"),
  (["zinh", "inherited", "qaai"],
    "lc 1u 1 2 1 t 168 2 3ff v kz 1i 1 1 1 5 ek 2 5e w 17o0 g g e r3 1 14hu 1a 2 n f4 3 h 8 2 7
     u 4 h45u 6o"),
  (["zyyy", "common"],
    "0 1t q 6 q 1b 1 f 1 5 n 1 v 1 ch 13 5 5 2 k 38 1 9 1 6 1 1 1 hp 1 5z 1 ec 1 124 1 b9 4 1ea
     3 1si c 2 x 1 1h 1 b 3 b 1 f h x 1r 12 1 3 2 6 1 r 1 h 15 3 4 if p b l ps 74 hg 2 w 1 2x
     e8 1v 1 q b6 c 4 1 3 1 d 1 d 1 l 1 ep o v 1 1d f c 4 4h a 5 2o v 1 534 1s hl4 q 2u 3 r4 1
     e 2 gbo a m l 2 c 1 j 1 4 43 1 1 w q 6 q 6 3j 7 1 7 a 5 b6 d 1f 19 14k3 38 1o 6u a 13 2 1q
     3 h 8 2 7 u 4 1p 5x k c k c 2f r 7 3r 2d 1 1z 1 2 2 1 2 2 2 4 1 c 1 1 1 7 1 1t 1 4 2 8 1 7
     1 s 1 4 1 5 1 1 3 7 1 9g 2 84 2 1e 41d 1w 24 1p jm 18 4 2s c f 2 f 1 f 1 11 a 4u 1k q 1 2
     d 18 4 9 n 6 4a rc 4 h 3 d 3 3b 4 2n 6 c 4 1 f c 4 1k 8 a 6 14 8 u 2 2 26 9g c e 2 d 3 9 7
     1a 1 7 8 e 4 9 7 9 7 43 1 1j 11 a gvlz 1 u 2o")]

end RequestDispatch.Unicode
