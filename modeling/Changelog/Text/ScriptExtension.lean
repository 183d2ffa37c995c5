import Changelog.Text.Script

/-!
# Characters shared by scripts

The property Script_Extensions of Unicode 16.0: some characters belong to no single script.
-/

namespace Changelog.Text.Script

/-- Code points that are used in several scripts or in another than their own: the text of their
ranges, and the short names of these scripts. -/
def shared : List (String × List String) :=
  [("b7",
     ["avst", "cari", "copt", "dupl", "elba", "geor", "glag", "gong", "goth", "grek", "hani",
      "latn", "lydi", "mahj", "perm", "shaw"]),
   ("2bc",
     ["beng", "cyrl", "deva", "latn", "lisu", "thai", "toto"]),
   ("2c7 2c9-2cb 2d9",
     ["bopo", "latn"]),
   ("2cd",
     ["latn", "lisu"]),
   ("2d7",
     ["latn", "thai"]),
   ("300",
     ["cher", "copt", "cyrl", "grek", "latn", "perm", "sunu", "tale"]),
   ("301",
     ["cher", "cyrl", "grek", "latn", "osge", "sunu", "tale", "todr"]),
   ("302",
     ["cher", "cyrl", "latn", "tfng"]),
   ("303",
     ["glag", "latn", "sunu", "syrc", "thai"]),
   ("304",
     ["aghb", "cher", "copt", "cyrl", "goth", "grek", "latn", "osge", "syrc", "tfng", "todr"]),
   ("305",
     ["copt", "elba", "glag", "goth", "kana", "latn"]),
   ("306",
     ["cyrl", "grek", "latn", "perm", "tfng"]),
   ("307",
     ["copt", "dupl", "hebr", "latn", "perm", "syrc", "tale", "tfng", "todr"]),
   ("308",
     ["armn", "cyrl", "dupl", "goth", "grek", "hebr", "latn", "perm", "syrc", "tale", "tfng"]),
   ("309",
     ["latn", "tfng"]),
   ("30a",
     ["dupl", "latn", "syrc"]),
   ("30b",
     ["cher", "cyrl", "latn", "osge"]),
   ("30c",
     ["cher", "latn", "tale"]),
   ("30d 310",
     ["latn", "sunu"]),
   ("30e",
     ["ethi", "latn"]),
   ("311",
     ["cyrl", "latn", "todr"]),
   ("313",
     ["grek", "latn", "perm", "todr"]),
   ("323",
     ["cher", "dupl", "kana", "latn", "syrc", "tfng"]),
   ("324",
     ["cher", "dupl", "latn", "syrc"]),
   ("325 32e",
     ["latn", "syrc"]),
   ("32d",
     ["latn", "sunu", "syrc"]),
   ("330",
     ["cher", "latn", "syrc"]),
   ("331",
     ["aghb", "cher", "goth", "latn", "sunu", "syrc", "thai"]),
   ("342 345 1dc0-1dc1",
     ["grek"]),
   ("358",
     ["latn", "osge"]),
   ("35e",
     ["aghb", "latn", "todr"]),
   ("363-36f",
     ["latn"]),
   ("374-375",
     ["copt", "grek"]),
   ("483",
     ["cyrl", "perm"]),
   ("484 487 2e43 a66f",
     ["cyrl", "glag"]),
   ("485-486",
     ["cyrl", "latn"]),
   ("589",
     ["armn", "geor", "glag"]),
   ("60c 61b",
     ["arab", "gara", "nkoo", "rohg", "syrc", "thaa", "yezi"]),
   ("61c",
     ["arab", "syrc", "thaa"]),
   ("61f",
     ["adlm", "arab", "gara", "nkoo", "rohg", "syrc", "thaa", "yezi"]),
   ("640",
     ["adlm", "arab", "mand", "mani", "ougr", "phlp", "rohg", "sogd", "syrc"]),
   ("64b-655 670",
     ["arab", "syrc"]),
   ("660-669",
     ["arab", "thaa", "yezi"]),
   ("6d4",
     ["arab", "rohg"]),
   ("951",
     ["beng", "deva", "gran", "gujr", "guru", "knda", "latn", "mlym", "nand", "newa", "orya",
      "shrd", "taml", "telu", "tirh"]),
   ("952",
     ["beng", "deva", "gran", "gujr", "guru", "knda", "latn", "mlym", "newa", "orya", "taml",
      "telu", "tirh"]),
   ("964",
     ["beng", "deva", "dogr", "gong", "gonm", "gran", "gujr", "guru", "knda", "mahj", "mlym",
      "nand", "onao", "orya", "sind", "sinh", "sylo", "takr", "taml", "telu", "tirh"]),
   ("965",
     ["beng", "deva", "dogr", "gong", "gonm", "gran", "gujr", "gukh", "guru", "knda", "limb",
      "mahj", "mlym", "nand", "onao", "orya", "sind", "sinh", "sylo", "takr", "taml", "telu",
      "tirh"]),
   ("966-96f",
     ["deva", "dogr", "kthi", "mahj"]),
   ("9e6-9ef",
     ["beng", "cakm", "sylo"]),
   ("a66-a6f",
     ["guru", "mult"]),
   ("ae6-aef",
     ["gujr", "khoj"]),
   ("be6-bf3 11301 11303 1133b-1133c 11fd0-11fd1 11fd3",
     ["gran", "taml"]),
   ("ce6-cef",
     ["knda", "nand", "tutg"]),
   ("1040-1049",
     ["cakm", "mymr", "tale"]),
   ("10fb",
     ["geor", "glag", "latn"]),
   ("16eb-16ed",
     ["runr"]),
   ("1735-1736",
     ["buhd", "hano", "tagb", "tglg"]),
   ("1802-1803 1805",
     ["mong", "phag"]),
   ("1cd0 1cd2",
     ["beng", "deva", "gran", "knda"]),
   ("1cd1 1cd4 1cdb 1cde-1cdf 1ce3-1ce8 1cec 1cee-1cf1",
     ["deva"]),
   ("1cd3",
     ["deva", "gran", "knda"]),
   ("1cd5",
     ["beng", "deva", "newa", "telu", "tirh"]),
   ("1cd6",
     ["beng", "deva", "telu"]),
   ("1cd7",
     ["deva", "newa", "shrd"]),
   ("1cd8",
     ["beng", "deva", "newa", "telu"]),
   ("1cd9 1cdc-1cdd 1ce0",
     ["deva", "shrd"]),
   ("1cda",
     ["deva", "knda", "mlym", "orya", "taml", "telu"]),
   ("1ce1 1cf5-1cf6",
     ["beng", "deva"]),
   ("1ce2",
     ["deva", "newa", "tirh"]),
   ("1ce9",
     ["deva", "nand", "newa"]),
   ("1cea",
     ["beng", "deva", "shrd"]),
   ("1ceb",
     ["deva", "newa"]),
   ("1ced",
     ["beng", "deva", "newa", "shrd"]),
   ("1cf2",
     ["beng", "deva", "gran", "knda", "mlym", "nand", "orya", "sinh", "telu", "tirh", "tutg"]),
   ("1cf3 1cf8-1cf9",
     ["deva", "gran"]),
   ("1cf4",
     ["deva", "gran", "knda", "tutg"]),
   ("1cf7",
     ["beng"]),
   ("1cfa",
     ["nand"]),
   ("1df8",
     ["cyrl", "latn", "syrc"]),
   ("1dfa",
     ["syrc"]),
   ("202f",
     ["latn", "mong", "phag"]),
   ("204f",
     ["adlm", "arab"]),
   ("205a",
     ["cari", "geor", "glag", "hung", "lyci", "orkh"]),
   ("205d",
     ["cari", "grek", "hung", "mero"]),
   ("20f0",
     ["deva", "gran", "latn"]),
   ("2e17",
     ["copt", "latn"]),
   ("2e30",
     ["avst", "orkh"]),
   ("2e31",
     ["avst", "cari", "geor", "hung", "kthi", "lydi", "samr"]),
   ("2e3c 1bca0-1bca3",
     ["dupl"]),
   ("2e41",
     ["adlm", "arab", "hung"]),
   ("2ff0-2fff 31ef",
     ["hani", "tang"]),
   ("3001",
     ["bopo", "hang", "hani", "hira", "kana", "mong", "yiii"]),
   ("3002",
     ["bopo", "hang", "hani", "hira", "kana", "mong", "phag", "yiii"]),
   ("3003 3013 301c-301f 3030 3037 fe45-fe46",
     ["bopo", "hang", "hani", "hira", "kana"]),
   ("3006 303e-303f 3190-319f 31c0-31e5 3220-3247 3280-32b0 32c0-32cb 32ff 3358-3370 337b-337f
    33e0-33fe 1d360-1d371 1f250-1f251",
     ["hani"]),
   ("3008-3009",
     ["bopo", "hang", "hani", "hira", "kana", "mong", "tibt", "yiii"]),
   ("300a-300b",
     ["bopo", "hang", "hani", "hira", "kana", "lisu", "mong", "tibt", "yiii"]),
   ("300c-3011 3014-301b 30fb ff61-ff65",
     ["bopo", "hang", "hani", "hira", "kana", "yiii"]),
   ("302a-302d",
     ["bopo", "hani"]),
   ("3031-3035 3099-309c 30a0 30fc ff70 ff9e-ff9f",
     ["hira", "kana"]),
   ("303c-303d",
     ["hani", "hira", "kana"]),
   ("a700-a707",
     ["hani", "latn"]),
   ("a830-a832",
     ["deva", "dogr", "gujr", "guru", "khoj", "knda", "kthi", "mahj", "mlym", "modi", "nand",
      "shrd", "sind", "takr", "tirh", "tutg"]),
   ("a833-a835",
     ["deva", "dogr", "gujr", "guru", "khoj", "knda", "kthi", "mahj", "modi", "nand", "shrd",
      "sind", "takr", "tirh", "tutg"]),
   ("a836-a837 a839",
     ["deva", "dogr", "gujr", "guru", "khoj", "kthi", "mahj", "modi", "sind", "takr", "tirh"]),
   ("a838",
     ["deva", "dogr", "gujr", "guru", "khoj", "kthi", "mahj", "modi", "shrd", "sind", "takr",
      "tirh"]),
   ("a8f1",
     ["beng", "deva", "tutg"]),
   ("a8f3",
     ["deva", "taml"]),
   ("a92e",
     ["kali", "latn", "mymr"]),
   ("a9cf",
     ["bugi", "java"]),
   ("fd3e-fd3f",
     ["arab", "nkoo"]),
   ("fdf2 fdfd",
     ["arab", "thaa"]),
   ("10100-10101",
     ["cpmn", "cprt", "linb"]),
   ("10102 10137-1013f",
     ["cprt", "linb"]),
   ("10107-10133",
     ["cprt", "lina", "linb"]),
   ("102e0-102fb",
     ["arab", "copt"]),
   ("10af2",
     ["mani", "ougr"])]

/-- The code points used in the script with the given name: those shared with it, and its own ones that
are not shared. -/
def extended? (name : String) : Option CodePoints :=
  (table.find? fun entry => entry.1.contains name).map fun entry =>
    let runs := shared.map fun run => (CodePoints.ofText run.1, run.2)
    let used := runs.filter fun run => run.2.any entry.1.contains
    ((CodePoints.ofText entry.2).diff (.unionAll (runs.map Prod.fst))).union
      (.unionAll (used.map Prod.fst))

end Changelog.Text.Script
