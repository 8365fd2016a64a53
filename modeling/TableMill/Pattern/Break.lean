import TableMill.Pattern.Property

/-!
# Where texts may be broken

The classes of characters that say where a text is broken into what readers take for
single characters, into words and into sentences. Names are in lower case without
separators.
-/

namespace TableMill
namespace Pattern
namespace Break

open Recipe Property

def joiner : Recipe :=
  .spans "200D"

/-- Letters of the scripts whose words are not told apart by spelling. -/
def complexContext : Recipe :=
  .spans "E01-E3A E40-E4E E81-E82 E84 E86-E8A E8C-EA3 EA5 EA7-EBD EC0-EC4 EC6 EC8-ECE EDC-EDF
    1000-103F 1050-108F 109A-109F 1780-17D3 17D7 17DC-17DD 1950-196D 1970-1974 1980-19AB
    19B0-19C9 19DA 19DE-19DF 1A20-1A5E 1A60-1A7C 1AA0-1AAD A9E0-A9EF A9FA-A9FE AA60-AAC2
    AADB-AADF 11700-1171A 1171D-1172B 1173A-1173B 1173F-11746"

/-- Digits and the signs within numbers of the category or beside it. -/
def numeric : Recipe :=
  .without (.join [.category ["nd"], concatenationMark, .spans "66B-66C 19DA"])
    (.spans "70F")

/-- Characters that extend what stands before. -/
def extending : Recipe :=
  .without (.join [graphemeExtend, .category ["mc"], emojiModifier]) joiner

def katakana : Recipe :=
  .without (.join [.script "katakana", .spans "3031-3035 309B-309C 30A0 30FC FF70"])
    extending

def hebrewLetter : Recipe :=
  .without (.script "hebrew") (.category ["mn", "po", "pd", "sm"])

def wordLetter : Recipe :=
  .without (.join [alphabetic, .spans "B8 2C2-2C5 2D2-2D7 2DE-2DF 2E5-2EB 2ED 2EF-2FF 55A-55C 55E
      58A 5F3 70F A708-A716 A720-A721 A789-A78A AB5B"])
    (.join [ideographic, katakana, complexContext, .script "hiragana", extending,
      hebrewLetter])

/-- Capital letters, those of titles among them. -/
def sentenceUpper : Recipe :=
  .without (.join [.category ["lt"], uppercase]) (.spans "1C90-1CBA 1CBD-1CBF")

/-- Small letters that may go on with a sentence. -/
def sentenceLower : Recipe :=
  .without lowercase (.join [graphemeExtend, .spans "10D0-10FA 10FD-10FF"])

/-- Marks after which a sentence ends or goes on. -/
def stop : Recipe :=
  .spans "2E 2024 FE52 FF0E"

/-- The classes of the parts that readers take for single characters. -/
def clusterTable : List (List String × Recipe) :=
  [(["cr"], .spans "D"),
   (["lf"], .spans "A"),
   (["control", "cn"],
    .without (.join [.category ["zl", "zp", "cc", "cf"],
      .spans "2065 FFF0-FFF8 E0000 E0002-E001F E0080-E00FF E01F0-E0FFF"])
      (.join [graphemeExtend, concatenationMark, .spans "A D 200C-200D"])),
   (["extend", "ex"], .without (.join [graphemeExtend, emojiModifier]) joiner),
   (["l"], .spans "1100-115F A960-A97C"),
   (["lv"], .steps 0xAC00 28 399),
   (["lvt"], .without (.spans "AC00-D7A3") (.steps 0xAC00 28 399)),
   (["prepend", "pp"],
    .join [concatenationMark,
      .spans "D4E 111C2-111C3 113D1 1193F 11941 11A3A 11A84-11A89 11D46 11F02"]),
   (["regionalindicator", "ri"], regionalIndicator),
   (["spacingmark", "sm"],
    .join [.spans "E33 EB3", .without (.category ["mc"]) (.join [graphemeExtend,
      .spans "102B-102C 1038 1062-1064 1067-106D 1083 1087-108C 108F 109A-109C 1A61 1A63-1A64
      AA7B AA7D 11720-11721"])]),
   (["t"], .spans "11A8-11FF D7CB-D7FB"),
   (["v"], .spans "1160-11A7 D7B0-D7C6 16D63 16D67-16D6A"),
   (["zwj"], joiner)]

/-- The classes of the parts of words. -/
def wordTable : List (List String × Recipe) :=
  [(["aletter", "le"], wordLetter),
   (["cr"], .spans "D"),
   (["doublequote", "dq"], .spans "22"),
   (["extend"], extending),
   (["extendnumlet", "ex"], .join [.category ["pc"], .spans "202F"]),
   (["format", "fo"],
    .without (.category ["cf"])
      (.join [extending, numeric, wordLetter, .spans "200B-200D"])),
   (["hebrewletter", "hl"], hebrewLetter),
   (["katakana", "ka"], katakana),
   (["lf"], .spans "A"),
   (["midletter", "ml"], .spans "3A B7 387 55F 5F4 2027 FE13 FE55 FF1A"),
   (["midnum", "mn"], .spans "2C 3B 37E 589 60C-60D 66C 7F8 2044 FE50 FE54 FF0C FF1B"),
   (["midnumlet", "mb"], .spans "2E 2018-2019 2024 FE52 FF07 FF0E"),
   (["newline", "nl"], .spans "B-C 85 2028-2029"),
   (["numeric", "nu"], .without numeric (.spans "66C")),
   (["regionalindicator", "ri"], regionalIndicator),
   (["singlequote", "sq"], .spans "27"),
   (["wsegspace"], .without (.category ["zs"]) (.spans "A0 2007 202F")),
   (["zwj"], joiner)]

/-- The classes of the parts of sentences. -/
def sentenceTable : List (List String × Recipe) :=
  [(["aterm", "at"], stop),
   (["cr"], .spans "D"),
   (["close", "cl"],
    .join [.category ["ps", "pe", "pi", "pf"],
      .spans "22 27 275B-2760 2E00-2E01 2E06-2E08 2E0B 1F676-1F678"]),
   (["extend", "ex"], .join [graphemeExtend, .category ["mc"], joiner]),
   (["format", "fo"],
    .without (.category ["cf"]) (.join [graphemeExtend, numeric, .spans "200C-200D"])),
   (["lf"], .spans "A"),
   (["lower", "lo"], sentenceLower),
   (["numeric", "nu"], numeric),
   (["oletter", "le"],
    .without (.join [alphabetic, .spans "5F3"])
      (.join [sentenceLower, sentenceUpper, graphemeExtend, .category ["mc"]])),
   (["scontinue", "sc"],
    .spans "2C-2D 3A-3B 37E 55D 60C-60D 7F8 1802 1808 2013-2014 3001 FE10-FE11 FE13-FE14
    FE31-FE32 FE50-FE51 FE54-FE55 FE58 FE63 FF0C-FF0D FF1A-FF1B FF64"),
   (["sterm", "st"], .without sentenceTerminal stop),
   (["sep", "se"], .spans "85 2028-2029"),
   (["sp"], .without whiteSpace (.spans "A D 85 2028-2029")),
   (["upper", "up"], sentenceUpper)]

end Break
end Pattern
end TableMill
