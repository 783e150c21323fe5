import Deobfuscation.Unicode.Script

/-!
# Script extensions

Some characters are used with several scripts, which are listed here by their codes.  All other
characters are used with the script they belong to.

* `scriptExtensions` — the characters that are used with several scripts;
* `extendedScript` — the characters that are used with a script.
-/

namespace Deobfuscation.Unicode

/-- The characters that are used with other scripts than their own, by the codes of these
scripts. -/
def scriptExtensions : List NamedSet :=
  [⟨["Avst", "Cari", "Copt", "Dupl", "Elba", "Geor", "Glag", "Gong", "Goth", "Grek", "Hani",
      "Latn", "Lydi", "Mahj", "Perm", "Shaw"],
      .listed "B7"⟩,
    ⟨["Beng", "Cyrl", "Deva", "Latn", "Lisu", "Thai", "Toto"], .listed "2BC"⟩,
    ⟨["Bopo", "Latn"], .listed "2C7 2C9-2CB 2D9"⟩,
    ⟨["Latn", "Lisu"], .listed "2CD"⟩,
    ⟨["Latn", "Thai"], .listed "2D7"⟩,
    ⟨["Cher", "Copt", "Cyrl", "Grek", "Latn", "Perm", "Sunu", "Tale"], .listed "300"⟩,
    ⟨["Cher", "Cyrl", "Grek", "Latn", "Osge", "Sunu", "Tale", "Todr"], .listed "301"⟩,
    ⟨["Cher", "Cyrl", "Latn", "Tfng"], .listed "302"⟩,
    ⟨["Glag", "Latn", "Sunu", "Syrc", "Thai"], .listed "303"⟩,
    ⟨["Aghb", "Cher", "Copt", "Cyrl", "Goth", "Grek", "Latn", "Osge", "Syrc", "Tfng", "Todr"],
      .listed "304"⟩,
    ⟨["Copt", "Elba", "Glag", "Goth", "Kana", "Latn"], .listed "305"⟩,
    ⟨["Cyrl", "Grek", "Latn", "Perm"], .listed "306"⟩,
    ⟨["Copt", "Dupl", "Hebr", "Latn", "Perm", "Syrc", "Tale", "Tfng", "Todr"], .listed "307"⟩,
    ⟨["Armn", "Cyrl", "Dupl", "Goth", "Grek", "Hebr", "Latn", "Perm", "Syrc", "Tale"],
      .listed "308"⟩,
    ⟨["Latn", "Tfng"], .listed "309"⟩,
    ⟨["Dupl", "Latn", "Syrc"], .listed "30A"⟩,
    ⟨["Cher", "Cyrl", "Latn", "Osge"], .listed "30B"⟩,
    ⟨["Cher", "Latn", "Tale"], .listed "30C"⟩,
    ⟨["Latn", "Sunu"], .listed "30D 310"⟩,
    ⟨["Ethi", "Latn"], .listed "30E"⟩,
    ⟨["Cyrl", "Latn", "Todr"], .listed "311"⟩,
    ⟨["Grek", "Latn", "Perm", "Todr"], .listed "313"⟩,
    ⟨["Latn", "Syrc"], .listed "320 325 32E"⟩,
    ⟨["Cher", "Dupl", "Kana", "Latn", "Syrc"], .listed "323"⟩,
    ⟨["Cher", "Dupl", "Latn", "Syrc"], .listed "324"⟩,
    ⟨["Latn", "Sunu", "Syrc"], .listed "32D"⟩,
    ⟨["Cher", "Latn", "Syrc"], .listed "330"⟩,
    ⟨["Aghb", "Cher", "Goth", "Latn", "Sunu", "Thai"], .listed "331"⟩,
    ⟨["Grek"], .listed "342 345 1DC0-1DC1"⟩,
    ⟨["Latn", "Osge"], .listed "358"⟩,
    ⟨["Aghb", "Latn", "Todr"], .listed "35E"⟩,
    ⟨["Latn"], .listed "363-36F"⟩,
    ⟨["Copt", "Grek"], .listed "374-375"⟩,
    ⟨["Cyrl", "Perm"], .listed "483"⟩,
    ⟨["Cyrl", "Glag"], .listed "484 487 2E43 A66F"⟩,
    ⟨["Cyrl", "Latn"], .listed "485-486"⟩,
    ⟨["Armn", "Geor", "Glag"], .listed "589"⟩,
    ⟨["Arab", "Gara", "Nkoo", "Rohg", "Syrc", "Thaa", "Yezi"], .listed "60C 61B"⟩,
    ⟨["Arab", "Syrc", "Thaa"], .listed "61C"⟩,
    ⟨["Adlm", "Arab", "Gara", "Nkoo", "Rohg", "Syrc", "Thaa", "Yezi"], .listed "61F"⟩,
    ⟨["Adlm", "Arab", "Mand", "Mani", "Ougr", "Phlp", "Rohg", "Sogd", "Syrc"], .listed "640"⟩,
    ⟨["Arab", "Syrc"], .listed "64B-655 670"⟩,
    ⟨["Arab", "Thaa", "Yezi"], .listed "660-669"⟩,
    ⟨["Arab", "Rohg"], .listed "6D4"⟩,
    ⟨["Beng", "Deva", "Gran", "Gujr", "Guru", "Knda", "Latn", "Mlym", "Nand", "Newa", "Orya",
      "Shrd", "Taml", "Telu", "Tirh"],
      .listed "951"⟩,
    ⟨["Beng", "Deva", "Gran", "Gujr", "Guru", "Knda", "Latn", "Mlym", "Newa", "Orya", "Taml",
      "Telu", "Tirh"],
      .listed "952"⟩,
    ⟨["Beng", "Deva", "Dogr", "Gong", "Gonm", "Gran", "Gujr", "Guru", "Knda", "Mahj", "Mlym",
      "Nand", "Onao", "Orya", "Sind", "Sinh", "Sylo", "Takr", "Taml", "Telu", "Tirh"],
      .listed "964"⟩,
    ⟨["Beng", "Deva", "Dogr", "Gong", "Gonm", "Gran", "Gujr", "Gukh", "Guru", "Knda", "Limb",
      "Mahj", "Mlym", "Nand", "Onao", "Orya", "Sind", "Sinh", "Sylo", "Takr", "Taml",
      "Telu", "Tirh"],
      .listed "965"⟩,
    ⟨["Deva", "Dogr", "Kthi", "Mahj"], .listed "966-96F"⟩,
    ⟨["Beng", "Cakm", "Sylo"], .listed "9E6-9EF"⟩,
    ⟨["Guru", "Mult"], .listed "A66-A6F"⟩,
    ⟨["Gujr", "Khoj"], .listed "AE6-AEF"⟩,
    ⟨["Gran", "Taml"], .listed "BE6-BF3 11301 11303 1133B-1133C 11FD0-11FD1 11FD3"⟩,
    ⟨["Knda", "Nand", "Tutg"], .listed "CE6-CEF"⟩,
    ⟨["Cakm", "Mymr", "Tale"], .listed "1040-1049"⟩,
    ⟨["Geor", "Glag", "Latn"], .listed "10FB"⟩,
    ⟨["Runr"], .listed "16EB-16ED"⟩,
    ⟨["Buhd", "Hano", "Tagb", "Tglg"], .listed "1735-1736"⟩,
    ⟨["Mong", "Phag"], .listed "1802-1803 1805"⟩,
    ⟨["Beng", "Deva", "Gran", "Knda"], .listed "1CD0 1CD2"⟩,
    ⟨["Deva"], .listed "1CD1 1CD4 1CDB 1CDE-1CDF 1CE2-1CE8 1CEB-1CEC 1CEE-1CF1"⟩,
    ⟨["Deva", "Gran"], .listed "1CD3 1CF3 1CF8-1CF9"⟩,
    ⟨["Beng", "Deva"], .listed "1CD5-1CD6 1CD8 1CE1 1CEA 1CED 1CF5-1CF6"⟩,
    ⟨["Deva", "Shrd"], .listed "1CD7 1CD9 1CDC-1CDD 1CE0"⟩,
    ⟨["Deva", "Knda", "Mlym", "Orya", "Taml", "Telu"], .listed "1CDA"⟩,
    ⟨["Deva", "Nand"], .listed "1CE9"⟩,
    ⟨["Beng", "Deva", "Gran", "Knda", "Mlym", "Nand", "Orya", "Sinh", "Telu", "Tirh", "Tutg"],
      .listed "1CF2"⟩,
    ⟨["Deva", "Gran", "Knda", "Tutg"], .listed "1CF4"⟩,
    ⟨["Beng"], .listed "1CF7"⟩,
    ⟨["Nand"], .listed "1CFA"⟩,
    ⟨["Cyrl", "Latn", "Syrc"], .listed "1DF8"⟩,
    ⟨["Syrc"], .listed "1DFA"⟩,
    ⟨["Latn", "Mong", "Phag"], .listed "202F"⟩,
    ⟨["Adlm", "Arab"], .listed "204F"⟩,
    ⟨["Cari", "Geor", "Glag", "Hung", "Lyci", "Orkh"], .listed "205A"⟩,
    ⟨["Cari", "Grek", "Hung", "Mero"], .listed "205D"⟩,
    ⟨["Deva", "Gran", "Latn"], .listed "20F0"⟩,
    ⟨["Copt", "Latn"], .listed "2E17"⟩,
    ⟨["Avst", "Orkh"], .listed "2E30"⟩,
    ⟨["Avst", "Cari", "Geor", "Hung", "Kthi", "Lydi", "Samr"], .listed "2E31"⟩,
    ⟨["Dupl"], .listed "2E3C 1BCA0-1BCA3"⟩,
    ⟨["Adlm", "Arab", "Hung"], .listed "2E41"⟩,
    ⟨["Hani", "Tang"], .listed "2FF0-2FFF 31EF"⟩,
    ⟨["Bopo", "Hang", "Hani", "Hira", "Kana", "Mong", "Yiii"], .listed "3001"⟩,
    ⟨["Bopo", "Hang", "Hani", "Hira", "Kana", "Mong", "Phag", "Yiii"], .listed "3002"⟩,
    ⟨["Bopo", "Hang", "Hani", "Hira", "Kana"], .listed "3003 3013 301C-301F 3030 3037 FE45-FE46"⟩,
    ⟨["Hani"],
      .listed "3006 303E-303F 3190-319F 31C0-31E5 3220-3247 3280-32B0 32C0-32CB 32FF 3358-3370
        337B-337F 33E0-33FE 1D360-1D371 1F250-1F251"⟩,
    ⟨["Bopo", "Hang", "Hani", "Hira", "Kana", "Mong", "Tibt", "Yiii"], .listed "3008-300B"⟩,
    ⟨["Bopo", "Hang", "Hani", "Hira", "Kana", "Yiii"],
      .listed "300C-3011 3014-301B 30FB FF61-FF65"⟩,
    ⟨["Bopo", "Hani"], .listed "302A-302D"⟩,
    ⟨["Hira", "Kana"], .listed "3031-3035 3099-309C 30A0 30FC FF70 FF9E-FF9F"⟩,
    ⟨["Hani", "Hira", "Kana"], .listed "303C-303D"⟩,
    ⟨["Hani", "Latn"], .listed "A700-A707"⟩,
    ⟨["Deva", "Dogr", "Gujr", "Guru", "Khoj", "Knda", "Kthi", "Mahj", "Mlym", "Modi", "Nand",
      "Shrd", "Sind", "Takr", "Tirh", "Tutg"],
      .listed "A830-A832"⟩,
    ⟨["Deva", "Dogr", "Gujr", "Guru", "Khoj", "Knda", "Kthi", "Mahj", "Modi", "Nand", "Shrd",
      "Sind", "Takr", "Tirh", "Tutg"],
      .listed "A833-A835"⟩,
    ⟨["Deva", "Dogr", "Gujr", "Guru", "Khoj", "Kthi", "Mahj", "Modi", "Sind", "Takr", "Tirh"],
      .listed "A836-A837 A839"⟩,
    ⟨["Deva", "Dogr", "Gujr", "Guru", "Khoj", "Kthi", "Mahj", "Modi", "Shrd", "Sind", "Takr",
      "Tirh"],
      .listed "A838"⟩,
    ⟨["Beng", "Deva", "Tutg"], .listed "A8F1"⟩,
    ⟨["Deva", "Taml"], .listed "A8F3"⟩,
    ⟨["Kali", "Latn", "Mymr"], .listed "A92E"⟩,
    ⟨["Bugi", "Java"], .listed "A9CF"⟩,
    ⟨["Arab", "Nkoo"], .listed "FD3E-FD3F"⟩,
    ⟨["Arab", "Thaa"], .listed "FDF2 FDFD"⟩,
    ⟨["Cpmn", "Cprt", "Linb"], .listed "10100-10101"⟩,
    ⟨["Cprt", "Linb"], .listed "10102 10137-1013F"⟩,
    ⟨["Cprt", "Lina", "Linb"], .listed "10107-10133"⟩,
    ⟨["Arab", "Copt"], .listed "102E0-102FB"⟩,
    ⟨["Mani", "Ougr"], .listed "10AF2"⟩]

/-- The characters of entries that name a script, added to a set. -/
def addExtensions (s : Repertoire) (script : List String) : List NamedSet → Repertoire
  | [] => s
  | entry :: entries =>
    if entry.names.any script.contains then entry.members ∪ addExtensions s script entries
    else addExtensions s script entries

/-- The characters whose scripts are listed as extensions. -/
def extended : Repertoire := scriptExtensions.foldr (fun entry s => entry.members ∪ s) .nothing

/-- The characters that are used with a script. -/
def extendedScript (script : NamedSet) : Repertoire :=
  addExtensions (script.members \ extended) script.names scriptExtensions

end Deobfuscation.Unicode
