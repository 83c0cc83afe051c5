import CodeSnapshot.Unicode.Property

/-!
# Breaks

What a character means for where a text may be divided into clusters, words and sentences, as version
15 of the Unicode character database gives it. To have one of these values is a property of a
character; a character without any is not listed.
-/

namespace CodeSnapshot.Unicode

/-- The values for breaks between clusters of characters. -/
def clusterBreaks : List Property := [
  { names := ["CN", "Control"]
    categories := [.control, .format]
    points := runs "
2028-2029 2065 FFF0-FFF8 E0000-E001F E0080-E00FF E01F0-E0FFF"
    exceptions := runs "A D 600-605 6DD-8E2 200C-200D 110BD-110CD E0020-E007F" },
  { names := ["CR"]
    points := runs "D" },
  { names := ["EX", "Extend"]
    categories := [.nonspacingMark, .enclosingMark]
    points := runs "
9BE 9D7 B3E B57 BBE BD7 CC2 CD5-CD6 D3E D57 DCF DDF 1B35 200C 302E-302F FF9E-FF9F 1133E 11357
114B0 114BD 115AF 11930 1D165 1D16E-1D172 1F3FB-1F3FF E0020-E007F" },
  { names := ["L"]
    points := runs "1100-115F A960-A97C" },
  { names := ["LF"]
    points := runs "A" },
  { names := ["LV"]
    points := runs "AC00-D788/1C" },
  { names := ["LVT"]
    points := runs "AC00-D7A3"
    exceptions := runs "AC00-D788/1C" },
  { names := ["PP", "Prepend"]
    points := runs "
600-605 6DD 70F 890-891 8E2 D4E 110BD 110CD 111C2-111C3 1193F 11941 11A3A 11A84-11A89 11D46 11F02" },
  { names := ["RI", "Regional_Indicator"]
    points := runs "1F1E6-1F1FF" },
  { names := ["SM", "SpacingMark"]
    categories := [.spacingMark]
    points := runs "E33 EB3"
    exceptions := runs "
9BE 9D7 B3E B57-BBE BD7 CC2 CD5-CD6 D3E D57 DCF DDF 102B-102C 1038 1062-1083 1087-109C 1A61-1A64
1B35 302E-302F AA7B-AA7D 1133E 11357 114B0 114BD 115AF 11720-11721 11930 1D165 1D16E-1D172" },
  { names := ["T"]
    points := runs "11A8-11FF D7CB-D7FB" },
  { names := ["V"]
    points := runs "1160-11A7 D7B0-D7C6" },
  { names := ["ZWJ"]
    points := runs "200D" }]

/-- The values for breaks between words. -/
def wordBreaks : List Property := [
  { names := ["LE", "ALetter"]
    categories := startOfName
    points := runs "
2C2-2D7 2DE-2FF 55A-55C 55E 58A 5F3 24B6-24E9 A708-A78A AB5B 1F130-1F149 1F150-1F169 1F170-1F189"
    exceptions := runs "
5D0-5F2 E01-EDF 1000-108E 1780-17DC 1950-19C9 1A20-1AA7 3006-303A 3041-30FF 31F0-9FFF A9E0-A9FE
AA60-AADD F900-FAD9 FB1D-FB4F FF66-FF9F 11700-11746 17000-1B2FB 20000-323AF" },
  { names := ["CR"]
    points := runs "D" },
  { names := ["DQ", "Double_Quote"]
    points := runs "22" },
  { names := ["Extend"]
    categories := [.nonspacingMark, .spacingMark, .enclosingMark]
    points := runs "200C FF9E-FF9F 1F3FB-1F3FF E0020-E007F" },
  { names := ["EX", "ExtendNumLet"]
    categories := [.connectorPunctuation]
    points := runs "202F" },
  { names := ["FO", "Format"]
    categories := [.format]
    points := []
    exceptions := runs "200B-200D E0020-E007F" },
  { names := ["HL", "Hebrew_Letter"]
    points := runs "
5D0-5EA 5EF-5F2 FB1D FB1F-FB28 FB2A-FB36 FB38-FB3C FB3E FB40-FB41 FB43-FB44 FB46-FB4F" },
  { names := ["KA", "Katakana"]
    points := runs "
3031-3035 309B-309C 30A0-30FA 30FC-30FF 31F0-31FF 32D0-32FE 3300-3357 FF66-FF9D 1AFF0-1AFF3
1AFF5-1AFFB 1AFFD-1AFFE 1B000 1B120-1B122 1B155 1B164-1B167" },
  { names := ["LF"]
    points := runs "A" },
  { names := ["ML", "MidLetter"]
    points := runs "3A B7 387 55F 5F4 2027 FE13 FE55 FF1A" },
  { names := ["MN", "MidNum"]
    points := runs "
2C 3B 37E 589 60C-60D 66C 7F8 2044 FE10 FE14 FE50 FE54 FF0C FF1B" },
  { names := ["MB", "MidNumLet"]
    points := runs "2E 2018-2019 2024 FE52 FF07 FF0E" },
  { names := ["NL", "Newline"]
    points := runs "B-C 85 2028-2029" },
  { names := ["NU", "Numeric"]
    categories := [.decimalNumber]
    points := runs "66B" },
  { names := ["RI", "Regional_Indicator"]
    points := runs "1F1E6-1F1FF" },
  { names := ["SQ", "Single_Quote"]
    points := runs "27" },
  { names := ["WSegSpace"]
    points := runs "20 1680 2000-2006 2008-200A 205F 3000" },
  { names := ["ZWJ"]
    points := runs "200D" }]

/-- The values for breaks between sentences. -/
def sentenceBreaks : List Property := [
  { names := ["AT", "ATerm"]
    points := runs "2E 2024 FE52 FF0E" },
  { names := ["CL", "Close"]
    categories := [.openPunctuation, .closePunctuation]
    points := runs "
22 27 AB BB 2018-201F 2039-203A 275B-2760 2E00-2E0D 2E1C-2E1D 2E20-2E21 1F676-1F678" },
  { names := ["CR"]
    points := runs "D" },
  { names := ["EX", "Extend"]
    categories := [.nonspacingMark, .spacingMark, .enclosingMark]
    points := runs "200C-200D FF9E-FF9F E0020-E007F" },
  { names := ["FO", "Format"]
    categories := [.format]
    points := []
    exceptions := runs "200C-200D E0020-E007F" },
  { names := ["LF"]
    points := runs "A" },
  { names := ["LO", "Lower"]
    categories := [.lowercaseLetter, .modifierLetter]
    points := runs "AA BA 2170-217F 24D0-24E9"
    exceptions := runs "
2B9-2BF 2C6-2D1 2EC-2EE 374 559 640-10FA 10FD-10FF 17D7-1C7D 2D6F-A60C A67F A717-A71F A788
A9CF-AAF4 FF70-FF9F 10781-10782 16B40-16B43 16F93-1AFFE 1E137-1E4EB 1E94B" },
  { names := ["NU", "Numeric"]
    categories := [.decimalNumber]
    points := runs "66B-66C" },
  { names := ["LE", "OLetter"]
    categories := [.modifierLetter, .otherLetter, .letterNumber]
    points := runs "5F3 10D0-10FA 10FD-10FF 1C90-1CBA 1CBD-1CBF"
    exceptions := runs "
AA-BA 2B0-2B8 2C0-2C1 2E0-2E4 37A 10FC 1D2C-209C 2160-217F 2C7C-2C7D A69C-A69D A770 A7F2-A7F4
A7F8-A7F9 AB5C-AB69 FF9E-FF9F 10780 10783-107BA 1E030-1E06D" },
  { names := ["SC", "SContinue"]
    points := runs "
2C-2D 3A 55D 60C-60D 7F8 1802 1808 2013-2014 3001 FE10-FE11 FE13 FE31-FE32 FE50-FE51 FE55 FE58
FE63 FF0C-FF0D FF1A FF64" },
  { names := ["SE", "Sep"]
    points := runs "85 2028-2029" },
  { names := ["SP"]
    categories := [.spaceSeparator]
    points := runs "9 B-C" },
  { names := ["ST", "STerm"]
    points := runs "
21 3F 589 61D-61F 6D4 700-702 7F9 837 839 83D-83E 964-965 104A-104B 1362 1367-1368 166E 1735-1736
1803 1809 1944-1945 1AA8-1AAB 1B5A-1B5B 1B5E-1B5F 1B7D-1B7E 1C3B-1C3C 1C7E-1C7F 203C-203D
2047-2049 2E2E 2E3C 2E53-2E54 3002 A4FF A60E-A60F A6F3 A6F7 A876-A877 A8CE-A8CF A92F A9C8-A9C9
AA5D-AA5F AAF0-AAF1 ABEB FE56-FE57 FF01 FF1F FF61 10A56-10A57 10F55-10F59 10F86-10F89 11047-11048
110BE-110C1 11141-11143 111C5-111C6 111CD 111DE-111DF 11238-11239 1123B-1123C 112A9 1144B-1144C
115C2-115C3 115C9-115D7 11641-11642 1173C-1173E 11944 11946 11A42-11A43 11A9B-11A9C 11C41-11C42
11EF7-11EF8 11F43-11F44 16A6E-16A6F 16AF5 16B37-16B38 16B44 16E98 1BC9F 1DA88" },
  { names := ["UP", "Upper"]
    categories := [.uppercaseLetter, .titlecaseLetter]
    points := runs "2160-216F 24B6-24CF 1F130-1F149 1F150-1F169 1F170-1F189"
    exceptions := runs "1C90-1CBF" }]

end CodeSnapshot.Unicode
