import Bulletin.Domain.Fate

namespace Bulletin.Domain

/-- A first code point, how many there are from it on, and the text of the first. The last character
of the text moves on with the code point. -/
def spellings : List (Nat × Nat × String) :=
  [(170, 1, "a"), (178, 2, "2"), (185, 1, "1"), (186, 1, "o"), (188, 1, "1⁄4"), (189, 1, "1⁄2"),
  (190, 1, "3⁄4"), (306, 1, "ij"), (307, 1, "ij"), (319, 1, "l·"), (320, 1, "l·"), (383, 1, "s"),
  (455, 1, "lj"), (456, 1, "lj"), (457, 1, "lj"), (458, 1, "nj"), (459, 1, "nj"), (460, 1, "nj"),
  (497, 1, "dz"), (498, 1, "dz"), (499, 1, "dz"), (688, 1, "h"), (690, 1, "j"), (691, 1, "r"),
  (695, 1, "w"), (696, 1, "y"), (737, 1, "l"), (738, 1, "s"), (739, 1, "x"), (894, 1, ";"), (3635,
  1, "ํา"), (3763, 1, "ໍາ"), (7468, 1, "a"), (7470, 1, "b"), (7472, 2, "d"), (7475, 8, "g"), (7484,
  1, "o"), (7486, 1, "p"), (7487, 1, "r"), (7488, 2, "t"), (7490, 1, "w"), (7491, 1, "a"), (7495,
  1, "b"), (7496, 2, "d"), (7501, 1, "g"), (7503, 1, "k"), (7504, 1, "m"), (7506, 1, "o"), (7510,
  1, "p"), (7511, 2, "t"), (7515, 1, "v"), (7522, 1, "i"), (7523, 1, "r"), (7524, 2, "u"), (7580,
  1, "c"), (7584, 1, "f"), (7611, 1, "z"), (8175, 1, "\x60"), (8252, 1, "!!"), (8304, 1, "0"),
  (8305, 1, "i"), (8308, 6, "4"), (8314, 1, "+"), (8316, 1, "="), (8317, 2, "("), (8319, 1, "n"),
  (8320, 10, "0"), (8330, 1, "+"), (8332, 1, "="), (8333, 2, "("), (8336, 1, "a"), (8337, 1, "e"),
  (8338, 1, "o"), (8339, 1, "x"), (8341, 1, "h"), (8342, 4, "k"), (8346, 1, "p"), (8347, 2, "s"),
  (8360, 1, "rs"), (8450, 1, "c"), (8451, 1, "°c"), (8457, 1, "°f"), (8458, 2, "g"), (8460, 1,
  "h"), (8461, 1, "h"), (8462, 1, "h"), (8464, 1, "i"), (8465, 1, "i"), (8466, 1, "l"), (8467, 1,
  "l"), (8469, 1, "n"), (8470, 1, "no"), (8473, 3, "p"), (8476, 1, "r"), (8477, 1, "r"), (8480, 1,
  "sm"), (8481, 1, "tel"), (8482, 1, "tm"), (8484, 1, "z"), (8488, 1, "z"), (8490, 1, "k"), (8492,
  2, "b"), (8495, 1, "e"), (8496, 2, "e"), (8499, 1, "m"), (8500, 1, "o"), (8505, 1, "i"), (8507,
  1, "fax"), (8517, 1, "d"), (8518, 2, "d"), (8520, 2, "i"), (8528, 1, "1⁄7"), (8529, 1, "1⁄9"),
  (8530, 1, "1⁄10"), (8531, 1, "1⁄3"), (8532, 1, "2⁄3"), (8533, 1, "1⁄5"), (8534, 1, "2⁄5"), (8535,
  1, "3⁄5"), (8536, 1, "4⁄5"), (8537, 1, "1⁄6"), (8538, 1, "5⁄6"), (8539, 1, "1⁄8"), (8540, 1,
  "3⁄8"), (8541, 1, "5⁄8"), (8542, 1, "7⁄8"), (8543, 1, "1⁄"), (8544, 1, "i"), (8545, 1, "ii"),
  (8546, 1, "iii"), (8547, 1, "iv"), (8548, 1, "v"), (8549, 1, "vi"), (8550, 1, "vii"), (8551, 1,
  "viii"), (8552, 1, "ix"), (8553, 1, "x"), (8554, 1, "xi"), (8555, 1, "xii"), (8556, 1, "l"),
  (8557, 2, "c"), (8559, 1, "m"), (8560, 1, "i"), (8561, 1, "ii"), (8562, 1, "iii"), (8563, 1,
  "iv"), (8564, 1, "v"), (8565, 1, "vi"), (8566, 1, "vii"), (8567, 1, "viii"), (8568, 1, "ix"),
  (8569, 1, "x"), (8570, 1, "xi"), (8571, 1, "xii"), (8572, 1, "l"), (8573, 2, "c"), (8575, 1,
  "m"), (8585, 1, "0⁄3"), (9312, 9, "1"), (9321, 10, "10"), (9331, 1, "20"), (9332, 1, "(1)"),
  (9333, 1, "(2)"), (9334, 1, "(3)"), (9335, 1, "(4)"), (9336, 1, "(5)"), (9337, 1, "(6)"), (9338,
  1, "(7)"), (9339, 1, "(8)"), (9340, 1, "(9)"), (9341, 1, "(10)"), (9342, 1, "(11)"), (9343, 1,
  "(12)"), (9344, 1, "(13)"), (9345, 1, "(14)"), (9346, 1, "(15)"), (9347, 1, "(16)"), (9348, 1,
  "(17)"), (9349, 1, "(18)"), (9350, 1, "(19)"), (9351, 1, "(20)"), (9372, 1, "(a)"), (9373, 1,
  "(b)"), (9374, 1, "(c)"), (9375, 1, "(d)"), (9376, 1, "(e)"), (9377, 1, "(f)"), (9378, 1, "(g)"),
  (9379, 1, "(h)"), (9380, 1, "(i)"), (9381, 1, "(j)"), (9382, 1, "(k)"), (9383, 1, "(l)"), (9384,
  1, "(m)"), (9385, 1, "(n)"), (9386, 1, "(o)"), (9387, 1, "(p)"), (9388, 1, "(q)"), (9389, 1,
  "(r)"), (9390, 1, "(s)"), (9391, 1, "(t)"), (9392, 1, "(u)"), (9393, 1, "(v)"), (9394, 1, "(w)"),
  (9395, 1, "(x)"), (9396, 1, "(y)"), (9397, 1, "(z)"), (9398, 26, "a"), (9424, 26, "a"), (9450, 1,
  "0"), (10869, 1, "=="), (10870, 1, "==="), (11388, 1, "j"), (11389, 1, "v"), (12290, 1, "."),
  (12800, 1, "(ᄀ)"), (12801, 1, "(ᄂ)"), (12802, 1, "(ᄃ)"), (12803, 1, "(ᄅ)"), (12804, 1, "(ᄆ)"),
  (12805, 1, "(ᄇ)"), (12806, 1, "(ᄉ)"), (12807, 1, "(ᄋ)"), (12808, 1, "(ᄌ)"), (12809, 1, "(ᄎ)"),
  (12810, 1, "(ᄏ)"), (12811, 1, "(ᄐ)"), (12812, 1, "(ᄑ)"), (12813, 1, "(ᄒ)"), (12814, 1, "(가)"),
  (12815, 1, "(나)"), (12816, 1, "(다)"), (12817, 1, "(라)"), (12818, 1, "(마)"), (12819, 1, "(바)"),
  (12820, 1, "(사)"), (12821, 1, "(아)"), (12822, 1, "(자)"), (12823, 1, "(차)"), (12824, 1, "(카)"),
  (12825, 1, "(타)"), (12826, 1, "(파)"), (12827, 1, "(하)"), (12828, 1, "(주)"), (12829, 1, "(오전)"),
  (12830, 1, "(오후)"), (12832, 1, "(一)"), (12833, 1, "(二)"), (12834, 1, "(三)"), (12835, 1, "(四)"),
  (12836, 1, "(五)"), (12837, 1, "(六)"), (12838, 1, "(七)"), (12839, 1, "(八)"), (12840, 1, "(九)"),
  (12841, 1, "(十)"), (12842, 1, "(月)"), (12843, 1, "(火)"), (12844, 1, "(水)"), (12845, 1, "(木)"),
  (12846, 1, "(金)"), (12847, 1, "(土)"), (12848, 1, "(日)"), (12849, 1, "(株)"), (12850, 1, "(有)"),
  (12851, 1, "(社)"), (12852, 1, "(名)"), (12853, 1, "(特)"), (12854, 1, "(財)"), (12855, 1, "(祝)"),
  (12856, 1, "(労)"), (12857, 1, "(代)"), (12858, 1, "(呼)"), (12859, 1, "(学)"), (12860, 1, "(監)"),
  (12861, 1, "(企)"), (12862, 1, "(資)"), (12863, 1, "(協)"), (12864, 1, "(祭)"), (12865, 1, "(休)"),
  (12866, 1, "(自)"), (12867, 1, "(至)"), (12880, 1, "pte"), (12881, 9, "21"), (12890, 6, "30"),
  (12977, 4, "36"), (12981, 10, "40"), (12991, 1, "50"), (12992, 1, "1月"), (12993, 1, "2月"),
  (12994, 1, "3月"), (12995, 1, "4月"), (12996, 1, "5月"), (12997, 1, "6月"), (12998, 1, "7月"), (12999,
  1, "8月"), (13000, 1, "9月"), (13001, 1, "10月"), (13002, 1, "11月"), (13003, 1, "12月"), (13004, 1,
  "hg"), (13005, 1, "erg"), (13006, 1, "ev"), (13007, 1, "ltd"), (13144, 1, "0点"), (13145, 1,
  "1点"), (13146, 1, "2点"), (13147, 1, "3点"), (13148, 1, "4点"), (13149, 1, "5点"), (13150, 1, "6点"),
  (13151, 1, "7点"), (13152, 1, "8点"), (13153, 1, "9点"), (13154, 1, "10点"), (13155, 1, "11点"),
  (13156, 1, "12点"), (13157, 1, "13点"), (13158, 1, "14点"), (13159, 1, "15点"), (13160, 1, "16点"),
  (13161, 1, "17点"), (13162, 1, "18点"), (13163, 1, "19点"), (13164, 1, "20点"), (13165, 1, "21点"),
  (13166, 1, "22点"), (13167, 1, "23点"), (13168, 1, "24点"), (13169, 1, "hpa"), (13170, 1, "da"),
  (13171, 1, "au"), (13172, 1, "bar"), (13173, 1, "ov"), (13174, 1, "pc"), (13175, 1, "dm"),
  (13176, 2, "dm2"), (13178, 1, "iu"), (13184, 1, "pa"), (13185, 1, "na"), (13187, 1, "ma"),
  (13188, 2, "ka"), (13190, 1, "mb"), (13191, 1, "gb"), (13192, 1, "cal"), (13193, 1, "kcal"),
  (13194, 1, "pf"), (13195, 1, "nf"), (13198, 1, "mg"), (13199, 1, "kg"), (13200, 1, "hz"), (13201,
  1, "khz"), (13202, 1, "mhz"), (13203, 1, "ghz"), (13204, 1, "thz"), (13206, 1, "ml"), (13207, 1,
  "dl"), (13208, 1, "kl"), (13209, 1, "fm"), (13210, 1, "nm"), (13212, 1, "mm"), (13213, 1, "cm"),
  (13214, 1, "km"), (13215, 1, "mm2"), (13216, 1, "cm2"), (13217, 1, "m2"), (13218, 1, "km2"),
  (13219, 1, "mm3"), (13220, 1, "cm3"), (13221, 1, "m3"), (13222, 1, "km3"), (13223, 1, "m∕s"),
  (13224, 1, "m∕s2"), (13225, 1, "pa"), (13226, 1, "kpa"), (13227, 1, "mpa"), (13228, 1, "gpa"),
  (13229, 1, "rad"), (13230, 1, "rad∕s"), (13231, 1, "rad∕s2"), (13232, 1, "ps"), (13233, 1, "ns"),
  (13235, 1, "ms"), (13236, 1, "pv"), (13237, 1, "nv"), (13239, 1, "mv"), (13240, 1, "kv"), (13241,
  1, "mv"), (13242, 1, "pw"), (13243, 1, "nw"), (13245, 1, "mw"), (13246, 1, "kw"), (13247, 1,
  "mw"), (13251, 1, "bq"), (13252, 2, "cc"), (13254, 1, "c∕kg"), (13256, 1, "db"), (13257, 1,
  "gy"), (13258, 1, "ha"), (13259, 1, "hp"), (13260, 1, "in"), (13261, 1, "kk"), (13262, 1, "km"),
  (13263, 1, "kt"), (13264, 2, "lm"), (13266, 1, "log"), (13267, 1, "lx"), (13268, 1, "mb"),
  (13269, 1, "mil"), (13270, 1, "mol"), (13271, 1, "ph"), (13273, 1, "ppm"), (13274, 1, "pr"),
  (13275, 1, "sr"), (13276, 1, "sv"), (13277, 1, "wb"), (13278, 1, "v∕m"), (13279, 1, "a∕m"),
  (13280, 1, "1日"), (13281, 1, "2日"), (13282, 1, "3日"), (13283, 1, "4日"), (13284, 1, "5日"), (13285,
  1, "6日"), (13286, 1, "7日"), (13287, 1, "8日"), (13288, 1, "9日"), (13289, 1, "10日"), (13290, 1,
  "11日"), (13291, 1, "12日"), (13292, 1, "13日"), (13293, 1, "14日"), (13294, 1, "15日"), (13295, 1,
  "16日"), (13296, 1, "17日"), (13297, 1, "18日"), (13298, 1, "19日"), (13299, 1, "20日"), (13300, 1,
  "21日"), (13301, 1, "22日"), (13302, 1, "23日"), (13303, 1, "24日"), (13304, 1, "25日"), (13305, 1,
  "26日"), (13306, 1, "27日"), (13307, 1, "28日"), (13308, 1, "29日"), (13309, 1, "30日"), (13310, 1,
  "31日"), (13311, 1, "gal"), (42993, 1, "s"), (42994, 1, "c"), (42995, 1, "f"), (42996, 1, "q"),
  (64256, 1, "ff"), (64257, 1, "fi"), (64258, 1, "fl"), (64259, 1, "ffi"), (64260, 1, "ffl"),
  (64261, 1, "st"), (64262, 1, "st"), (64297, 1, "+"), (65040, 1, ","), (65044, 1, ";"), (65045, 1,
  "!"), (65075, 1, "_"), (65076, 1, "_"), (65077, 2, "("), (65079, 1, "\x7b"), (65080, 1, "\x7d"),
  (65101, 1, "_"), (65102, 1, "_"), (65103, 1, "_"), (65104, 1, ","), (65108, 1, ";"), (65111, 1,
  "!"), (65113, 2, "("), (65115, 1, "\x7b"), (65116, 1, "\x7d"), (65120, 1, "&"), (65121, 2, "*"),
  (65123, 1, "-"), (65126, 1, "="), (65129, 1, "$"), (65281, 2, "!"), (65284, 1, "$"), (65286, 9,
  "&"), (65296, 10, "0"), (65307, 1, ";"), (65309, 1, "="), (65313, 26, "a"), (65343, 29, "_"),
  (65373, 2, "\x7d"), (65377, 1, "."), (67493, 1, "q"), (117974, 26, "a"), (118000, 10, "0"),
  (119808, 26, "a"), (119834, 26, "a"), (119860, 26, "a"), (119886, 7, "a"), (119894, 18, "i"),
  (119912, 26, "a"), (119938, 26, "a"), (119964, 1, "a"), (119966, 2, "c"), (119970, 1, "g"),
  (119973, 2, "j"), (119977, 4, "n"), (119982, 8, "s"), (119990, 4, "a"), (119995, 1, "f"),
  (119997, 7, "h"), (120005, 11, "p"), (120016, 26, "a"), (120042, 26, "a"), (120068, 2, "a"),
  (120071, 4, "d"), (120077, 8, "j"), (120086, 7, "s"), (120094, 26, "a"), (120120, 2, "a"),
  (120123, 4, "d"), (120128, 5, "i"), (120134, 1, "o"), (120138, 7, "s"), (120146, 26, "a"),
  (120172, 26, "a"), (120198, 26, "a"), (120224, 26, "a"), (120250, 26, "a"), (120276, 26, "a"),
  (120302, 26, "a"), (120328, 26, "a"), (120354, 26, "a"), (120380, 26, "a"), (120406, 26, "a"),
  (120432, 26, "a"), (120458, 26, "a"), (120782, 10, "0"), (120792, 10, "0"), (120802, 10, "0"),
  (120812, 10, "0"), (120822, 10, "0"), (127233, 1, "0,"), (127234, 1, "1,"), (127235, 1, "2,"),
  (127236, 1, "3,"), (127237, 1, "4,"), (127238, 1, "5,"), (127239, 1, "6,"), (127240, 1, "7,"),
  (127241, 1, "8,"), (127242, 1, "9,"), (127248, 1, "(a)"), (127249, 1, "(b)"), (127250, 1, "(c)"),
  (127251, 1, "(d)"), (127252, 1, "(e)"), (127253, 1, "(f)"), (127254, 1, "(g)"), (127255, 1,
  "(h)"), (127256, 1, "(i)"), (127257, 1, "(j)"), (127258, 1, "(k)"), (127259, 1, "(l)"), (127260,
  1, "(m)"), (127261, 1, "(n)"), (127262, 1, "(o)"), (127263, 1, "(p)"), (127264, 1, "(q)"),
  (127265, 1, "(r)"), (127266, 1, "(s)"), (127267, 1, "(t)"), (127268, 1, "(u)"), (127269, 1,
  "(v)"), (127270, 1, "(w)"), (127271, 1, "(x)"), (127272, 1, "(y)"), (127273, 1, "(z)"), (127274,
  1, "〔s〕"), (127275, 1, "c"), (127276, 1, "r"), (127277, 1, "cd"), (127278, 1, "wz"), (127280, 26,
  "a"), (127306, 1, "hv"), (127307, 1, "mv"), (127308, 1, "sd"), (127309, 1, "ss"), (127310, 1,
  "ppv"), (127311, 1, "wc"), (127338, 2, "mc"), (127340, 1, "mr"), (127376, 1, "dj"), (127552, 1,
  "〔本〕"), (127553, 1, "〔三〕"), (127554, 1, "〔二〕"), (127555, 1, "〔安〕"), (127556, 1, "〔点〕"), (127557,
  1, "〔打〕"), (127558, 1, "〔盗〕"), (127559, 1, "〔勝〕"), (127560, 1, "〔敗〕"), (130032, 10, "0")]

def advance (i : Nat) : List Char → List Char
  | [] => []
  | [c] => [Char.ofNat (c.toNat + i)]
  | c :: cs => c :: advance i cs

def spelling (c : Char) : List Char :=
  match spellings.find? fun (first, count, _) => first ≤ c.toNat ∧ c.toNat < first + count with
  | some (first, _, text) => advance (c.toNat - first) text.toList
  | none => []

def expand? (c : Char) : Option (List Char) :=
  match fate c with
  | .refused => none
  | .removed => some []
  | .spelled => some (spelling c)
  | .kept .. => some [c.toLower]

end Bulletin.Domain
