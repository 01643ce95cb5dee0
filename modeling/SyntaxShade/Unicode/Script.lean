import SyntaxShade.Unicode.Table
/-! The script of every code point, from the Unicode Character Database 17.0. -/
namespace SyntaxShade.Unicode

/-- The script names, by their index in the table, in alphabetical order. -/
def scriptNames : List String := [
  "Adlam", "Ahom", "Anatolian_Hieroglyphs", "Arabic", "Armenian", "Avestan", "Balinese", "Bamum",
  "Bassa_Vah", "Batak", "Bengali", "Beria_Erfe", "Bhaiksuki", "Bopomofo", "Brahmi", "Braille",
  "Buginese", "Buhid", "Canadian_Aboriginal", "Carian", "Caucasian_Albanian", "Chakma", "Cham",
  "Cherokee", "Chorasmian", "Common", "Coptic", "Cuneiform", "Cypriot", "Cypro_Minoan", "Cyrillic",
  "Deseret", "Devanagari", "Dives_Akuru", "Dogra", "Duployan", "Egyptian_Hieroglyphs", "Elbasan",
  "Elymaic", "Ethiopic", "Garay", "Georgian", "Glagolitic", "Gothic", "Grantha", "Greek",
  "Gujarati", "Gunjala_Gondi", "Gurmukhi", "Gurung_Khema", "Han", "Hangul", "Hanifi_Rohingya",
  "Hanunoo", "Hatran", "Hebrew", "Hiragana", "Imperial_Aramaic", "Inherited",
  "Inscriptional_Pahlavi", "Inscriptional_Parthian", "Javanese", "Kaithi", "Kannada", "Katakana",
  "Kawi", "Kayah_Li", "Kharoshthi", "Khitan_Small_Script", "Khmer", "Khojki", "Khudawadi",
  "Kirat_Rai", "Lao", "Latin", "Lepcha", "Limbu", "Linear_A", "Linear_B", "Lisu", "Lycian",
  "Lydian", "Mahajani", "Makasar", "Malayalam", "Mandaic", "Manichaean", "Marchen",
  "Masaram_Gondi", "Medefaidrin", "Meetei_Mayek", "Mende_Kikakui", "Meroitic_Cursive",
  "Meroitic_Hieroglyphs", "Miao", "Modi", "Mongolian", "Mro", "Multani", "Myanmar", "Nabataean",
  "Nag_Mundari", "Nandinagari", "New_Tai_Lue", "Newa", "Nko", "Nushu", "Nyiakeng_Puachue_Hmong",
  "Ogham", "Ol_Chiki", "Ol_Onal", "Old_Hungarian", "Old_Italic", "Old_North_Arabian", "Old_Permic",
  "Old_Persian", "Old_Sogdian", "Old_South_Arabian", "Old_Turkic", "Old_Uyghur", "Oriya", "Osage",
  "Osmanya", "Pahawh_Hmong", "Palmyrene", "Pau_Cin_Hau", "Phags_Pa", "Phoenician",
  "Psalter_Pahlavi", "Rejang", "Runic", "Samaritan", "Saurashtra", "Sharada", "Shavian", "Siddham",
  "Sidetic", "SignWriting", "Sinhala", "Sogdian", "Sora_Sompeng", "Soyombo", "Sundanese",
  "Sunuwar", "Syloti_Nagri", "Syriac", "Tagalog", "Tagbanwa", "Tai_Le", "Tai_Tham", "Tai_Viet",
  "Tai_Yo", "Takri", "Tamil", "Tangsa", "Tangut", "Telugu", "Thaana", "Thai", "Tibetan",
  "Tifinagh", "Tirhuta", "Todhri", "Tolong_Siki", "Toto", "Tulu_Tigalari", "Ugaritic", "Vai",
  "Vithkuqi", "Wancho", "Warang_Citi", "Yezidi", "Yi", "Zanabazar_Square"]

/-- Maximal runs of code points of one script, as a range table. -/
def scriptText : String :=
  String.join [
    "aCazazCkafzazCkaBozaaCkaozaaCkaezawCkaaza+CkaazaOaCkaBgzaeCkaezabnatzaDpB6adBnaazacBncdBnaazaaBn",
    "eaBnaazaaBnaazacBnbaBnbtBnbB+Bnan6apBnaEe+abB6aFi+bBfecBreccebBwBxi6BxefBxledaazafdaazandaazacda",
    "aza/daazajdakB6azdaaB6aDldaazaBbdanErbB7ErccEraBpdaBrE9oB6DjccDjaBnEdcoEdb7CvcaCvbkErfBbdfCkdaaz",
    "a8daCqBaadB6aoBaabzazBaadkbhkcbkcvkbgkbakddkcikcbkcdkiakebkbekcykccBqbfBqebBqcvBqbgBqbbBqbbBqbbB",
    "qcaBqbeBqebBqccBqdaBqhdBqbaBqhqBqkcBobiBobcBobvBobgBobbBobeBocjBobcBobcBocaBopdBoclBohgBobcDybhD",
    "ycbDycvDybgDybbDybeDyciDycbDyccDyhcDyebDybeDycrDykbEzbfEzdcEzbdEzdbEzbaEzbbEzdbEzdcEzdlEzeeEzdcE",
    "zbdEzcaEzgaEzouEzfmE8bcE8bwE8bpE8ciE8bcE8bdE8hbE8bcE8bbE8cdE8cjE8hiE8amB/bcB/bwB/bjB/beB/ciB/bcB",
    "/bdB/hbB/fcB/bdB/cjB/bcB/mmCubcCubBsCubcCubfCuepCuczCubcEkbrEkdxEkbiEkbaEkcgEkdaEkefEkbaEkbhEkgj",
    "EkccEkmBzE+eaza7E+BfbCjbaCjbeCjbxCjbaCjbwCjceCjbaCjbgCjbjCjcdCjBaChE/bBdE/eBgE/bBdE/boE/bgE/adza",
    "bE/BfE/DdaBfBjbaBjfaBjcBkBjaazadBjaH/BtaCiBhbdBhcgBhbaBhbdBhcBiBhbdBhcBaBhbdBhcgBhbaBhbdBhcoBhbB",
    "yBhbdBhcCcBhc/BhdzBhgCvxcfxcT/sa8DmdCkEcaczakEchvEsjaEsauBvabzjtrmmEtbcEtbbEtmC9CfcjCfgjCfgbDaab",
    "zaaDaaazatDagCyDahBkDafCfsk+CmblCmelCmeaCmdlCma9EuceEulBlDhezDhgkDhdbDha/Cfa7qcbqaB+Evb8EvckEvgj",
    "EvgnEvcBnB6clB6uCmgbBrgaB/EoaBtjidjaBxCldoCldcClaBpDnak+fBkBjccBjahEoicB6aazamB6aazagB6adzaaB6af",
    "zaaB6aczabB6aazfBfCkaeBnaa+aBqCkaeBnadCkaeBnamCkaa+aCfCkaaBnaB/B6aH/CkavBncfBncBfBncfBnchBnbaBnb",
    "aBnbaBnb+BncBuBnboBnbnBncfBnbsBnccBnbiBnblzabB6aCwzbkzaaCkckzaaCkaozbmCkdBbzoBaB6pBfzaaBnaczabCk",
    "afzaaCka6zaaCkaqzaBiCkaczeUzzwkzv2/zaH/paTtzcEjzaC/Bka/CkaDt6fg6aBfBjbaBjfaBjcBxFahbFaoaFaawBhjg",
    "BhbgBhbgBhbgBhbgBhbgBhbgBhbgBhb/+aC9zBczBsbCyBsmGvBs6uzaaBsaazaaBsayzaiBsadB6abBtahzadBsadzbCvBy",
    "cbB6abzacByaazaCzCaabzacCafBknbC9Btbpza/naBfzjazapCaa+BtbB/za+BtaCqzaBoCaaazaCxCaaFhzaGN/BsaB/za",
    "UP/BsaBEmFmdBwFmjBpCpaJlFhuC/+aCxhiBbzaDfCkaczaCrCkuoCkaBmEqdjzgBxD+iCfEeilEeg/BaaBnCcaazaaCcaBd",
    "EblaEba8BtdCnB9bazajB9ebB9a+DdbBwwjnwcjwcdwa/DdaCcEwyeEwawC6kfBhcfBhcfBhjgBhbgBhbBkCkaazaiCkaaBn",
    "adCkabzeCpxaBnC6cjC6gK3dBtmwBteBqBtIIeLnBscDjBsBggCkmeefzBxbeBxbaBxbbBxbbBxbjBxaPndabzaEpdBapdap",
    "B6ajzgnB6ab+aBczbszbdzeedbEgdcazb/zazCkafzazCkakzajCaaazaBmCaabza+BtdfBtcfBtcfBtccBtdgzbgzkezclC",
    "obzCobsCobbCoboCocnCoBcD6CofczeBmzdizaCoBnbmzdaBnBpBmzaaB6Ec8CqdBqtpaB6a6zeBdDqjcDqa6BlfBkDsf9Fg",
    "baFgaBdDtenDtBkCp/aBpEga9D6cjD6gBdDzeBdDzeBhBfiBtulauakFiboFibgFibbFibkFiboFibgFibbFidBtFcmJwCnj",
    "vCnkhCnyfCkbBjCkbiCkCff8ca8bBl8bb8da8ca8avBzbiBza/D8a+DeiiDeBqsBwbbBwfeBwa7D/daD/azCrfaCrazEiBg/",
    "C9axC8etC8cBnC8adCdbbCdfhCdbcCdb8CdccCdejCdhiCdh/Dva/DrBaBgCwelCwjBvfdgfavB8chB8asB7fhB7arEahdEa",
    "mgEaCqCiDwBxBsDpnBsDphfDpaBhBuijBugBfBid8BiibBiGq+dbBjFlbcFlcbFlqfdiidBbfdaBhDuiBjElwzDxBg7yuwBg",
    "jCnoeBdojaoaCcB+kaB+cyEmhjEmgBuvbrviBgCsjC/EfbtEklrCgbBoCgB+gDcbaDcbdDcboDcbkDcgB6ChfjChgdBmbhBm",
    "cbBmcvBmbgBmbbBmbeBmbaB6aiBmcbBmccBmcaBmgaBmfgBmcgBmdeBmljFfbaFfcaFfbBfFfbjFfbaFfcaFfbdFfbjFfbbF",
    "fibFf9C7DibeDi+ChFbijFbFgBvEhcBfEhBcCeC/ljC/gmDatBzEygjEygtDd86bcobewbFzB7BcDeCsFkmaFkagBbcaBbch",
    "BbbbBbb9BbbbBbclBbjjBbCghDgcBnDgckDg7ChFniCsEnnpsaByD9hjBaCwhEfCyBbEpojEpgimbBmmbnmk8md/CxcvCxbn",
    "CxCjgCybbCybBlCydaCybbCybiCyijCygfBpbbBpbBeBpbbBpbfBphjBpgBlFdejFdHwyCthqCbbBiCbd8CbCvaCppBrEzna",
    "Eza2z7DgDo7be7lGd7CSmDc9nBCvBekD26BefSgcGVzBzBrBWgRyhh+DbbjDbebDbaCoE6bjE6g9icfikCfD7kjD7bgD7buD",
    "7fsD7NqBzCiGgC6CzfylcylBmCkC+eByC+hqC+CaaE7aaDkabBsaaCelgBsjGX/E7aOvCeBjaCea+E7DbDsE7IP9dCabgCab",
    "bCabaCaaI+ByacCapaBy9cBycaCaodCaiMlDkCIeDkBdfmBddiBdhjBdcdBdadzD08H8zdNtzgwzpqzpBnB6cwB6jDtzB8Hv",
    "zkBgzcB9zacB6aqzahB6abzagB6a9zadB6aB8zvCfBnD6tzmtzmCwzjyzEhCuzbCgzbbzcazcbzcdzblzbazbgzbCazbdzch",
    "zbgzb7zbdzbezbazdgzbKtzcJdzcBrzaUlEjpeEjboEjBCq+CkgfCkGvgBkbqBkcgBkbbBkbeBkfB9+Bba+DqBmDldnDlcjD",
    "lebDlKa+FerBzFjfaFjOqBjDfGwBkDoeaDoGa+ExbvExibExHagBhbdBhbbBhboBhbGeC7cpC7BjClaejaebaYrCdzCmB8zG",
    "cddb6dbbdbadcadbjdbddbadbadgadeadbadbadbcdbbdbadcadbadbadbadbadbbdbadcddbgdbddbddbadbjdbqdfcdbed",
    "bqdBubdIoBlzeDdzmozcozbozbBezkFnzByzzaaByabznBlzeizhbzofzE64yzdqzdmzdGzzglzeazplzeBxzijzgBhzi9zc",
    "lzebzoizBhKxzinzcmzdkzdByzbazepzclzejzhEszbDgzBAfBJW/BsBaEI9BscFUnBscHJqBspTnBsCNcQ9BsBPcE0kBsfI",
    "JjBsVS2haz+C/zEaHpB6"]

def scriptTable : Array Span := rangeTable scriptText

/-- The index in `scriptNames` of the script of a code point. -/
def script? (c : Nat) : Option Nat := Span.find? scriptTable c

def scriptIndex? (name : String) : Option Nat := scriptNames.idxOf? name

end SyntaxShade.Unicode
