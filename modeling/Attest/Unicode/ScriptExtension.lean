import Attest.Unicode.Script

/-!
The scripts that a character is used in.

Most characters are used in their own script only. `extensionTable` lists the others (version 16.0
of the Unicode Standard) under all the scripts that they are used in.
-/

namespace Attest.Unicode

/-- The code points that are used in other scripts than their own, as ranges, under the scripts that
they are used in. -/
def extensionTable : List (List String × String) := [
  (["Adlam", "Arabic"],
    "204F"),
  (["Adlam", "Arabic", "Garay", "Hanifi_Rohingya", "Nko", "Syriac", "Thaana", "Yezidi"],
    "61F"),
  (["Adlam", "Arabic", "Hanifi_Rohingya", "Mandaic", "Manichaean", "Old_Uyghur",
    "Psalter_Pahlavi", "Sogdian", "Syriac"],
    "640"),
  (["Adlam", "Arabic", "Old_Hungarian"],
    "2E41"),
  (["Arabic", "Coptic"],
    "102E0-102FB"),
  (["Arabic", "Garay", "Hanifi_Rohingya", "Nko", "Syriac", "Thaana", "Yezidi"],
    "60C 61B"),
  (["Arabic", "Hanifi_Rohingya"],
    "6D4"),
  (["Arabic", "Nko"],
    "FD3E-FD3F"),
  (["Arabic", "Syriac"],
    "64B-655 670"),
  (["Arabic", "Syriac", "Thaana"],
    "61C"),
  (["Arabic", "Thaana"],
    "FDF2 FDFD"),
  (["Arabic", "Thaana", "Yezidi"],
    "660-669"),
  (["Armenian", "Cyrillic", "Duployan", "Gothic", "Greek", "Hebrew", "Latin", "Old_Permic",
    "Syriac", "Tai_Le"],
    "308"),
  (["Armenian", "Georgian", "Glagolitic"],
    "589"),
  (["Avestan", "Carian", "Coptic", "Duployan", "Elbasan", "Georgian", "Glagolitic", "Gothic",
    "Greek", "Gunjala_Gondi", "Han", "Latin", "Lydian", "Mahajani", "Old_Permic", "Shavian"],
    "B7"),
  (["Avestan", "Carian", "Georgian", "Kaithi", "Lydian", "Old_Hungarian", "Samaritan"],
    "2E31"),
  (["Avestan", "Old_Turkic"],
    "2E30"),
  (["Bengali"],
    "1CF7"),
  (["Bengali", "Chakma", "Syloti_Nagri"],
    "9E6-9EF"),
  (["Bengali", "Cyrillic", "Devanagari", "Latin", "Lisu", "Thai", "Toto"],
    "2BC"),
  (["Bengali", "Devanagari"],
    "1CD5-1CD6 1CD8 1CE1 1CEA 1CED 1CF5-1CF6"),
  (["Bengali", "Devanagari", "Dogra", "Grantha", "Gujarati", "Gunjala_Gondi", "Gurmukhi",
    "Gurung_Khema", "Kannada", "Khudawadi", "Limbu", "Mahajani", "Malayalam", "Masaram_Gondi",
    "Nandinagari", "Ol_Onal", "Oriya", "Sinhala", "Syloti_Nagri", "Takri", "Tamil", "Telugu",
    "Tirhuta"],
    "965"),
  (["Bengali", "Devanagari", "Dogra", "Grantha", "Gujarati", "Gunjala_Gondi", "Gurmukhi",
    "Kannada", "Khudawadi", "Mahajani", "Malayalam", "Masaram_Gondi", "Nandinagari", "Ol_Onal",
    "Oriya", "Sinhala", "Syloti_Nagri", "Takri", "Tamil", "Telugu", "Tirhuta"],
    "964"),
  (["Bengali", "Devanagari", "Grantha", "Gujarati", "Gurmukhi", "Kannada", "Latin", "Malayalam",
    "Oriya", "Sharada", "Tamil", "Telugu", "Tirhuta"],
    "951"),
  (["Bengali", "Devanagari", "Grantha", "Gujarati", "Gurmukhi", "Kannada", "Latin", "Malayalam",
    "Oriya", "Tamil", "Telugu", "Tirhuta"],
    "952"),
  (["Bengali", "Devanagari", "Grantha", "Kannada"],
    "1CD0 1CD2"),
  (["Bengali", "Devanagari", "Grantha", "Kannada", "Malayalam", "Nandinagari", "Oriya",
    "Sinhala", "Telugu", "Tirhuta", "Tulu_Tigalari"],
    "1CF2"),
  (["Bengali", "Devanagari", "Tulu_Tigalari"],
    "A8F1"),
  (["Bopomofo", "Han"],
    "302A-302D"),
  (["Bopomofo", "Han", "Hangul", "Hiragana", "Katakana"],
    "3003 3013 301C-301F 3030 3037 FE45-FE46"),
  (["Bopomofo", "Han", "Hangul", "Hiragana", "Katakana", "Lisu", "Mongolian", "Tibetan", "Yi"],
    "300A-300B"),
  (["Bopomofo", "Han", "Hangul", "Hiragana", "Katakana", "Mongolian", "Phags_Pa", "Yi"],
    "3002"),
  (["Bopomofo", "Han", "Hangul", "Hiragana", "Katakana", "Mongolian", "Tibetan", "Yi"],
    "3008-3009"),
  (["Bopomofo", "Han", "Hangul", "Hiragana", "Katakana", "Mongolian", "Yi"],
    "3001"),
  (["Bopomofo", "Han", "Hangul", "Hiragana", "Katakana", "Yi"],
    "300C-3011 3014-301B 30FB FF61-FF65"),
  (["Bopomofo", "Latin"],
    "2C7 2C9-2CB 2D9"),
  (["Buginese", "Javanese"],
    "A9CF"),
  (["Buhid", "Hanunoo", "Tagalog", "Tagbanwa"],
    "1735-1736"),
  (["Carian", "Georgian", "Glagolitic", "Lycian", "Old_Hungarian", "Old_Turkic"],
    "205A"),
  (["Carian", "Greek", "Meroitic_Hieroglyphs", "Old_Hungarian"],
    "205D"),
  (["Caucasian_Albanian", "Cherokee", "Coptic", "Cyrillic", "Gothic", "Greek", "Latin", "Osage",
    "Syriac", "Tifinagh", "Todhri"],
    "304"),
  (["Caucasian_Albanian", "Cherokee", "Gothic", "Latin", "Sunuwar", "Thai"],
    "331"),
  (["Caucasian_Albanian", "Latin", "Todhri"],
    "35E"),
  (["Chakma", "Myanmar", "Tai_Le"],
    "1040-1049"),
  (["Cherokee", "Coptic", "Cyrillic", "Greek", "Latin", "Old_Permic", "Sunuwar", "Tai_Le"],
    "300"),
  (["Cherokee", "Cyrillic", "Greek", "Latin", "Osage", "Sunuwar", "Tai_Le", "Todhri"],
    "301"),
  (["Cherokee", "Cyrillic", "Latin", "Osage"],
    "30B"),
  (["Cherokee", "Cyrillic", "Latin", "Tifinagh"],
    "302"),
  (["Cherokee", "Duployan", "Katakana", "Latin", "Syriac"],
    "323"),
  (["Cherokee", "Duployan", "Latin", "Syriac"],
    "324"),
  (["Cherokee", "Latin", "Syriac"],
    "330"),
  (["Cherokee", "Latin", "Tai_Le"],
    "30C"),
  (["Coptic", "Duployan", "Hebrew", "Latin", "Old_Permic", "Syriac", "Tai_Le", "Tifinagh",
    "Todhri"],
    "307"),
  (["Coptic", "Elbasan", "Glagolitic", "Gothic", "Katakana", "Latin"],
    "305"),
  (["Coptic", "Greek"],
    "374-375"),
  (["Coptic", "Latin"],
    "2E17"),
  (["Cypriot", "Cypro_Minoan", "Linear_B"],
    "10100-10101"),
  (["Cypriot", "Linear_A", "Linear_B"],
    "10107-10133"),
  (["Cypriot", "Linear_B"],
    "10102 10137-1013F"),
  (["Cyrillic", "Glagolitic"],
    "484 487 2E43 A66F"),
  (["Cyrillic", "Greek", "Latin", "Old_Permic"],
    "306"),
  (["Cyrillic", "Latin"],
    "485-486"),
  (["Cyrillic", "Latin", "Syriac"],
    "1DF8"),
  (["Cyrillic", "Latin", "Todhri"],
    "311"),
  (["Cyrillic", "Old_Permic"],
    "483"),
  (["Devanagari"],
    "1CD1 1CD4 1CDB 1CDE-1CDF 1CE2-1CE8 1CEB-1CEC 1CEE-1CF1"),
  (["Devanagari", "Dogra", "Gujarati", "Gurmukhi", "Kaithi", "Kannada", "Khojki", "Khudawadi",
    "Mahajani", "Malayalam", "Modi", "Nandinagari", "Sharada", "Takri", "Tirhuta",
    "Tulu_Tigalari"],
    "A830-A832"),
  (["Devanagari", "Dogra", "Gujarati", "Gurmukhi", "Kaithi", "Kannada", "Khojki", "Khudawadi",
    "Mahajani", "Modi", "Nandinagari", "Sharada", "Takri", "Tirhuta", "Tulu_Tigalari"],
    "A833-A835"),
  (["Devanagari", "Dogra", "Gujarati", "Gurmukhi", "Kaithi", "Khojki", "Khudawadi", "Mahajani",
    "Modi", "Sharada", "Takri", "Tirhuta"],
    "A838"),
  (["Devanagari", "Dogra", "Gujarati", "Gurmukhi", "Kaithi", "Khojki", "Khudawadi", "Mahajani",
    "Modi", "Takri", "Tirhuta"],
    "A836-A837 A839"),
  (["Devanagari", "Dogra", "Kaithi", "Mahajani"],
    "966-96F"),
  (["Devanagari", "Grantha"],
    "1CF3 1CF8-1CF9"),
  (["Devanagari", "Grantha", "Kannada"],
    "1CD3"),
  (["Devanagari", "Grantha", "Kannada", "Tulu_Tigalari"],
    "1CF4"),
  (["Devanagari", "Grantha", "Latin"],
    "20F0"),
  (["Devanagari", "Kannada", "Malayalam", "Oriya", "Tamil", "Telugu"],
    "1CDA"),
  (["Devanagari", "Nandinagari"],
    "1CE9"),
  (["Devanagari", "Sharada"],
    "1CD7 1CD9 1CDC-1CDD 1CE0"),
  (["Devanagari", "Tamil"],
    "A8F3"),
  (["Duployan"],
    "2E3C 1BCA0-1BCA3"),
  (["Duployan", "Latin", "Syriac"],
    "30A"),
  (["Ethiopic", "Latin"],
    "30E"),
  (["Georgian", "Glagolitic", "Latin"],
    "10FB"),
  (["Glagolitic", "Latin", "Sunuwar", "Syriac", "Thai"],
    "303"),
  (["Grantha", "Tamil"],
    "BE6-BF3 11301 11303 1133B-1133C 11FD0-11FD1 11FD3"),
  (["Greek"],
    "342 345 1DC0-1DC1"),
  (["Greek", "Latin", "Old_Permic", "Todhri"],
    "313"),
  (["Gujarati", "Khojki"],
    "AE6-AEF"),
  (["Gurmukhi", "Multani"],
    "A66-A6F"),
  (["Han"],
    "3006 303E-303F 3190-319F 31C0-31E5 3220-3247 3280-32B0 32C0-32CB 32FF 3358-3370 337B-337F
    33E0-33FE 1D360-1D371 1F250-1F251"),
  (["Han", "Hiragana", "Katakana"],
    "303C-303D"),
  (["Han", "Latin"],
    "A700-A707"),
  (["Han", "Tangut"],
    "2FF0-2FFF 31EF"),
  (["Hiragana", "Katakana"],
    "3031-3035 3099-309C 30A0 30FC FF70 FF9E-FF9F"),
  (["Kannada", "Nandinagari", "Tulu_Tigalari"],
    "CE6-CEF"),
  (["Kayah_Li", "Latin", "Myanmar"],
    "A92E"),
  (["Latin"],
    "363-36F"),
  (["Latin", "Lisu"],
    "2CD"),
  (["Latin", "Mongolian", "Phags_Pa"],
    "202F"),
  (["Latin", "Osage"],
    "358"),
  (["Latin", "Sunuwar"],
    "30D 310"),
  (["Latin", "Sunuwar", "Syriac"],
    "32D"),
  (["Latin", "Syriac"],
    "320 325 32E"),
  (["Latin", "Thai"],
    "2D7"),
  (["Latin", "Tifinagh"],
    "309"),
  (["Manichaean", "Old_Uyghur"],
    "10AF2"),
  (["Mongolian", "Phags_Pa"],
    "1802-1803 1805"),
  (["Nandinagari"],
    "1CFA"),
  (["Runic"],
    "16EB-16ED"),
  (["Syriac"],
    "1DFA")]

/-- The characters that are used in the script of those names, of which `own` are those that belong
to it. -/
def usedInScript (names : List String) (own : CodeSet) : CodeSet :=
  let listed (rows : List (List String × String)) : CodeSet :=
    .ofRanges (rows.flatMap fun row => (CodeSet.ofTable row.2).ranges)
  (own.diff (listed extensionTable)).union
    (listed (extensionTable.filter fun row => row.1.any names.contains))

end Attest.Unicode
