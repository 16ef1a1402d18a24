import Conform.Unicode.ScriptTable
/-!
# Script — scripts by name

A script has a long and a short name, here in small letters and without
separators.
-/


namespace Conform.Unicode.Script

/-- The scripts with their names. -/
def named : List (List String × CodeSet) :=
  [(["adlam", "adlm"], adlam), (["ahom"], ahom),
    (["anatolianhieroglyphs", "hluw"], anatolianHieroglyphs), (["arabic", "arab"], arabic),
    (["armenian", "armn"], armenian), (["avestan", "avst"], avestan),
    (["balinese", "bali"], balinese), (["bamum", "bamu"], bamum),
    (["bassavah", "bass"], bassaVah), (["batak", "batk"], batak), (["bengali", "beng"], bengali),
    (["bhaiksuki", "bhks"], bhaiksuki), (["bopomofo", "bopo"], bopomofo),
    (["brahmi", "brah"], brahmi), (["braille", "brai"], braille),
    (["buginese", "bugi"], buginese), (["buhid", "buhd"], buhid),
    (["canadianaboriginal", "cans"], canadianAboriginal), (["carian", "cari"], carian),
    (["caucasianalbanian", "aghb"], caucasianAlbanian), (["chakma", "cakm"], chakma),
    (["cham"], cham), (["cherokee", "cher"], cherokee), (["chorasmian", "chrs"], chorasmian),
    (["common", "zyyy"], common), (["coptic", "copt", "qaac"], coptic),
    (["cuneiform", "xsux"], cuneiform), (["cypriot", "cprt"], cypriot),
    (["cyprominoan", "cpmn"], cyproMinoan), (["cyrillic", "cyrl"], cyrillic),
    (["deseret", "dsrt"], deseret), (["devanagari", "deva"], devanagari),
    (["divesakuru", "diak"], divesAkuru), (["dogra", "dogr"], dogra),
    (["duployan", "dupl"], duployan), (["egyptianhieroglyphs", "egyp"], egyptianHieroglyphs),
    (["elbasan", "elba"], elbasan), (["elymaic", "elym"], elymaic),
    (["ethiopic", "ethi"], ethiopic), (["garay", "gara"], garay),
    (["georgian", "geor"], georgian), (["glagolitic", "glag"], glagolitic),
    (["gothic", "goth"], gothic), (["grantha", "gran"], grantha), (["greek", "grek"], greek),
    (["gujarati", "gujr"], gujarati), (["gunjalagondi", "gong"], gunjalaGondi),
    (["gurmukhi", "guru"], gurmukhi), (["gurungkhema", "gukh"], gurungKhema),
    (["han", "hani"], han), (["hangul", "hang"], hangul),
    (["hanifirohingya", "rohg"], hanifiRohingya), (["hanunoo", "hano"], hanunoo),
    (["hatran", "hatr"], hatran), (["hebrew", "hebr"], hebrew), (["hiragana", "hira"], hiragana),
    (["imperialaramaic", "armi"], imperialAramaic), (["inherited", "zinh", "qaai"], inherited),
    (["inscriptionalpahlavi", "phli"], inscriptionalPahlavi),
    (["inscriptionalparthian", "prti"], inscriptionalParthian), (["javanese", "java"], javanese),
    (["kaithi", "kthi"], kaithi), (["kannada", "knda"], kannada),
    (["katakana", "kana"], katakana), (["kawi"], kawi), (["kayahli", "kali"], kayahLi),
    (["kharoshthi", "khar"], kharoshthi), (["khitansmallscript", "kits"], khitanSmallScript),
    (["khmer", "khmr"], khmer), (["khojki", "khoj"], khojki), (["khudawadi", "sind"], khudawadi),
    (["kiratrai", "krai"], kiratRai), (["lao", "laoo"], lao), (["latin", "latn"], latin),
    (["lepcha", "lepc"], lepcha), (["limbu", "limb"], limbu), (["lineara", "lina"], linearA),
    (["linearb", "linb"], linearB), (["lisu"], lisu), (["lycian", "lyci"], lycian),
    (["lydian", "lydi"], lydian), (["mahajani", "mahj"], mahajani),
    (["makasar", "maka"], makasar), (["malayalam", "mlym"], malayalam),
    (["mandaic", "mand"], mandaic), (["manichaean", "mani"], manichaean),
    (["marchen", "marc"], marchen), (["masaramgondi", "gonm"], masaramGondi),
    (["medefaidrin", "medf"], medefaidrin), (["meeteimayek", "mtei"], meeteiMayek),
    (["mendekikakui", "mend"], mendeKikakui), (["meroiticcursive", "merc"], meroiticCursive),
    (["meroitichieroglyphs", "mero"], meroiticHieroglyphs), (["miao", "plrd"], miao),
    (["modi"], modi), (["mongolian", "mong"], mongolian), (["mro", "mroo"], mro),
    (["multani", "mult"], multani), (["myanmar", "mymr"], myanmar),
    (["nabataean", "nbat"], nabataean), (["nagmundari", "nagm"], nagMundari),
    (["nandinagari", "nand"], nandinagari), (["newtailue", "talu"], newTaiLue), (["newa"], newa),
    (["nko", "nkoo"], nko), (["nushu", "nshu"], nushu),
    (["nyiakengpuachuehmong", "hmnp"], nyiakengPuachueHmong), (["ogham", "ogam"], ogham),
    (["olchiki", "olck"], olChiki), (["olonal", "onao"], olOnal),
    (["oldhungarian", "hung"], oldHungarian), (["olditalic", "ital"], oldItalic),
    (["oldnortharabian", "narb"], oldNorthArabian), (["oldpermic", "perm"], oldPermic),
    (["oldpersian", "xpeo"], oldPersian), (["oldsogdian", "sogo"], oldSogdian),
    (["oldsoutharabian", "sarb"], oldSouthArabian), (["oldturkic", "orkh"], oldTurkic),
    (["olduyghur", "ougr"], oldUyghur), (["oriya", "orya"], oriya), (["osage", "osge"], osage),
    (["osmanya", "osma"], osmanya), (["pahawhhmong", "hmng"], pahawhHmong),
    (["palmyrene", "palm"], palmyrene), (["paucinhau", "pauc"], pauCinHau),
    (["phagspa", "phag"], phagsPa), (["phoenician", "phnx"], phoenician),
    (["psalterpahlavi", "phlp"], psalterPahlavi), (["rejang", "rjng"], rejang),
    (["runic", "runr"], runic), (["samaritan", "samr"], samaritan),
    (["saurashtra", "saur"], saurashtra), (["sharada", "shrd"], sharada),
    (["shavian", "shaw"], shavian), (["siddham", "sidd"], siddham),
    (["signwriting", "sgnw"], signWriting), (["sinhala", "sinh"], sinhala),
    (["sogdian", "sogd"], sogdian), (["sorasompeng", "sora"], soraSompeng),
    (["soyombo", "soyo"], soyombo), (["sundanese", "sund"], sundanese),
    (["sunuwar", "sunu"], sunuwar), (["sylotinagri", "sylo"], sylotiNagri),
    (["syriac", "syrc"], syriac), (["tagalog", "tglg"], tagalog),
    (["tagbanwa", "tagb"], tagbanwa), (["taile", "tale"], taiLe), (["taitham", "lana"], taiTham),
    (["taiviet", "tavt"], taiViet), (["takri", "takr"], takri), (["tamil", "taml"], tamil),
    (["tangsa", "tnsa"], tangsa), (["tangut", "tang"], tangut), (["telugu", "telu"], telugu),
    (["thaana", "thaa"], thaana), (["thai"], thai), (["tibetan", "tibt"], tibetan),
    (["tifinagh", "tfng"], tifinagh), (["tirhuta", "tirh"], tirhuta),
    (["todhri", "todr"], todhri), (["toto"], toto), (["tulutigalari", "tutg"], tuluTigalari),
    (["ugaritic", "ugar"], ugaritic), (["vai", "vaii"], vai), (["vithkuqi", "vith"], vithkuqi),
    (["wancho", "wcho"], wancho), (["warangciti", "wara"], warangCiti),
    (["yezidi", "yezi"], yezidi), (["yi", "yiii"], yi),
    (["zanabazarsquare", "zanb"], zanabazarSquare)]

end Conform.Unicode.Script
