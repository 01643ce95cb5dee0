import SyntaxShade.Unicode.Table
/-! The general category of every code point, from the Unicode Character Database 17.0. -/
namespace SyntaxShade.Unicode

/-- The two-letter general categories, by their index. The letters come first, then marks,
numbers, punctuation, symbols, separators and others; the last, `Cn`, is the category of the
code points in no run of the table. -/
def categoryNames : List String :=
  ["Lu", "Ll", "Lt", "Lm", "Lo", "Mn", "Mc", "Me", "Nd", "Nl", "No", "Pc", "Pd", "Ps", "Pe",
    "Pi", "Pf", "Po", "Sm", "Sc", "Sk", "So", "Zs", "Zl", "Zp", "Cc", "Cf", "Cs", "Co", "Cn"]

/-- The index of `Cn` in `categoryNames`. -/
def unassigned : Nat := 29

/-- Maximal runs of assigned code points of one general category, as a range table. -/
def categoryText : String :=
  String.join [
    "a/zaawacraatacraanaaoaaraasaaraamabrajiabracsabrazaaanaaraaoaauaalaauazbaanaasaaoaasaBazaawaarad",
    "taavaaraauaavaaeaapaasaa6aavaauaavaasabkaauaababraauaakaaeaaqackaarawaaasagaaxbaasahbaaaaabaaaaa",
    "baaaaabaaaaabaaaaabaaaaabaaaaabaaaaabaaaaabaaaaabaaaaabaaaaabaaaaabaaaaabaaaaabaaaaabaaaaabaaaaa",
    "baaaaabaaaaabaaaaabaaaaabaaaaabaaaaabaaaaabaaaaabaaaaabaaaabbaaaaabaaaaabaaaaabaaaaabaaaaabaaaaa",
    "baaaaabaaaabbaaaaabaaaaabaaaaabaaaaabaaaaabaaaaabaaaaabaaaaabaaaaabaaaaabaaaaabaaaaabaaaaabaaaaa",
    "baaaaabaaaaabaaaaabaaaaabaaaaabaaaaabaaaaabaaaaabaaaaababaaabaaaaabaaaacbabaaabaaaaababaaabacaab",
    "badaaababaaabacaacbabaaababaaabaaaaabaaaaababaaabaaaabbaaaaababaaabacaaabaaaaababaabbaaeaaaacbad",
    "eaaaaacaabaaaaacaabaaaaacaabaaaaabaaaaabaaaaabaaaaabaaaaabaaaaabaaaaabaaaabbaaaaabaaaaabaaaaabaa",
    "aaabaaaaabaaaaabaaaaabaaaaabaaaabbaaaaacaabaaaaabacaaabaaaaabaaaaabaaaaabaaaaabaaaaabaaaaabaaaaa",
    "baaaaabaaaaabaaaaabaaaaabaaaaabaaaaabaaaaabaaaaabaaaaabaaaaabaaaaabaaaaabaaaaabaaaaabaaaaabaaaaa",
    "baaaaabaaaaabaaaaabaaaaabaaaaabaaaagbabaaababaabbaaaaabadaaabaaaaabaaaaabaaaaabaaaaCebabeazbarda",
    "dualdanuaedaguaadaauaadaquaDpfaaaaabaaaaabaadaauaaaaabcadacbaaraaaebuaaaaaracabaabbaaabaqabiaaBc",
    "baaaabbacaacbaaaaabaaaaabaaaaabaaaaabaaaaabaaaaabaaaaabaaaaabaaaaabaaaaabaaaaabaaaaebaaaaabaasaa",
    "aaababaabbaBsaaBpbaaaaabaaaaabaaaaabaaaaabaaaaabaaaaabaaaaabaaaaabaaaaabaaaaabaaaaabaaaaabaaaaab",
    "aaaaabaaaaabaaaaabaaaaabaavaefabhaaaaabaaaaabaaaaabaaaaabaaaaabaaaaabaaaaabaaaaabaaaaabaaaaabaaa",
    "aabaaaaabaaaaabaaaaabaaaaabaaaaabaaaaabaaaaabaaaaabaaaaabaaaaabaaaaabaaaaabaaaaabaaaaabaaaaabaaa",
    "aababaaabaaaaabaaaaabaaaaabaaaaabaaaaabaaaabbaaaaabaaaaabaaaaabaaaaabaaaaabaaaaabaaaaabaaaaabaaa",
    "aabaaaaabaaaaabaaaaabaaaaabaaaaabaaaaabaaaaabaaaaabaaaaabaaaaabaaaaabaaaaabaaaaabaaaaabaaaaabaaa",
    "aabaaaaabaaaaabaaaaabaaaaabaaaaabaaaaabaaaaabaaaaabaaaaabaaaaabaaaaabaaaaabaaaaabaaaaabaaaaabaaa",
    "aabaaaaabaaaaabaaaaabaaaaabaaaaabaaaaabaaaaabbBfacadafraBibaaraamcbvaatbBmfaamaafaarabfaarabfaar",
    "aafi6eedeabrlf6acsabraatabrabvakfaaraa6acra/eaadajeaufajiadrabeaafaDceaaraaeagfaa6aavaffabdabfaa",
    "vadfabeajiaceabvaaeanrba6aaeaafa9ea6fcCyeakfaaeojiaBaeaifabdaavacraadcafabtaveadfaadaifaadacfaad",
    "aefcorbyeacfcarbkefxeaauageab6fifaBieaadaxfaa6a/faagaBveaafaagaafaaeacgahfadgaafabgaaeagfajeabfa",
    "brajiaaraadaoeaafabgbhecbecvebgebaeddecafaaeacgadfcbgcbgaafaaeiagebebceabfcjiabeabtafkaavaataaea",
    "araafcbfaagbfeebecvebgebbebbebbecafbcgabfebfccfdafhdebaehjiabfaceaafaarkbfaagbiebcebvebgebbebeec",
    "afaaeacgaefbbfaagbbgaafcaepbeabfcjiaaraathaeaffbafabgbhecbecvebgebbebeecafaaeaagaafaagadfcbgcbga",
    "afhbfaagebebceabfcjiaavaaeafkkafaaebfedcebdedbebaebbedbedcedleebgaafabgdcgbcgaafcaegagojiackafva",
    "ataavfafacgaafahebcebwebpecafaaeacfadgbcfbdfhbfbcebbecbeabfcjiharagkaavaaeaafabgaarahebcebwebjeb",
    "eecafaaeaagaafaegbafabgbbgabfhbgfcebbeabfcjibbeaagmbfabgaiebcebBieabfaaeacgadfbcgbcgaafaaeaavece",
    "aagagkaceabfcjiaikaavafebafabgbredxebiebaecgedafecgacfbafbhggjicbgaarmBpeaafabeagfeatafeaadahfaa",
    "rajiabrBfbebaebeebxebaebjeaafabeaifaaeceebadbgfbjicdeBaaeacvaoraavaaracvabfafvajiajkaavaafaavaaf",
    "aavaafaanaaoaanaaoabgahebBdeenfaagaefaarabfaeeakfbBdfbhvaafafvbbvaeradvabrBfBkeabgadfaagaffaagab",
    "fabgabfaaeajiafrafeabgabfadeacfaaeacgabeaggaceadfameaafabgabfafgaafaaeaagajiacgaafabvaBfabaafaac",
    "BkbaaraadacbaKiebdecgebaebdecBiebdecBaebdecgebaebdecoebByebdecCceccfairatkdpeajvgCvacfbcamaTleaa",
    "vaaraqeaawazeaanaaodCkeacracjahehreacfaagjseabfaagabrjreabfmmebcebbfmBteabfaagagfahgaafabgakfacr",
    "aadacraataaeaafcjigjkgfraamadracfaa6aafajigBceaadaBueheeabfaBbeaafaaefCfek+ebcfadgabfacgebgaafaf",
    "gacfeavdbrajia9eceelBleezegjiaakdBbvaweabfabgaafcbraBueaagaafaagagfbafaagaafabgahfafgajfcafajigj",
    "iggraadafrcnfaaha+fclfudfaagaBoeaafaagaefaagaafaegaafabgahebbrajiagrajvaifaivacrabfaaga9eaagadfa",
    "bgabfaagacfabeajiaBleaafaagabfacgaafaagacfabgidraBdeahgahfabgabfderajidceajia9eafdabraibaaaaabfB",
    "kaccaahricfaaramfaagagfadeaafafeaafabeaagabfaaefBlbaB+dambaadaBbbaBedaB/faaaaabaaaaabaaaaabaaaaa",
    "baaaaabaaaaabaaaaabaaaaabaaaaabaaaaabaaaaabaaaaabaaaaabaaaaabaaaaabaaaaabaaaaabaaaaabaaaaabaaaaa",
    "baaaaabaaaaabaaaaabaaaaabaaaaabaaaaabaaaaabaaaaabaaaaabaaaaabaaaaabaaaaabaaaaabaaaaabaaaaabaaaaa",
    "baaaaabaaaaabaaaaabaaaaabaaaaabaaaaabaaaaabaaaaabaaaaabaaaaabaaaaabaaaaabaaaaabaaaaabaaaaabaaaaa",
    "baaaaabaaaaabaaaaabaaaaabaaaaabaaaaabaaaaabaaaaabaaaaabaaaaabaaaaabaaaaabaaaaabaaaaabaaaaabaaaaa",
    "baaaaabaaaaabaaaaabaaaaabaaaaabaaaaabaaaaibaaaaabaaaaabaaaaabaaaaabaaaaabaaaaabaaaaabaaaaabaaaaa",
    "baaaaabaaaaabaaaaabaaaaabaaaaabaaaaabaaaaabaaaaabaaaaabaaaaabaaaaabaaaaabaaaaabaaaaabaaaaabaaaaa",
    "baaaaabaaaaabaaaaabaaaaabaaaaabaaaaabaaaaabaaaaabaaaaabaaaaabaaaaabaaaaabaaaaabaaaaabaaaaabaaaaa",
    "baaaaabaaaaabaaaaabaaaaabaaaaabaaaaabaaaaabaaaaibahaafbcfachbahaahbahaafbcfachbbaabaabaabaaahbah",
    "aanbchbahcahbahcahbahcaebbbbadaaacaauaabacuacbbbbadaaacacuadbcbbadabcuahbaeaacuccbbbbadaaacabubk",
    "wae6afmabraapaaqaanabpaaqaanaapahraaxaayae6aawairaapaaqadrablacraasaanaaoakraasaaraalajraawae6bj",
    "6aakaadcfkacsaanaaoaadajkacsaanaaobmddBbtomfadhaafachalfpbvaaaadvaaaabvaabacaabbacaaabaavaaaabva",
    "asaeaafvaaaaavaaaaavaaaaavadaaavaabadaaabadeaababvabbabaaesaaaadbaavaasabvaabaavapkaBcjaaaaabadj",
    "aakabveesaevabsadvaasabvaasabvaasagvaasa+vabsabvaasaavaasa+vaIlsahvaanaaoaanaaoatvabsagvaanaaoaC",
    "qvaasa9vaysaBhvafsaChvwkvvB7kaCnvavkaFwvaasaivaasaBvvahsaDovaasaHxvaanaaoaanaaoaanaaoaanaaoaanaa",
    "oaanaaoaanaaoa9kaBlvaesaanaaoa+saanaaoaanaaoaanaaoaanaaoaanaaoapsaH/vaEcsaanaaoaanaaoaanaaoaanaa",
    "oaanaaoaanaaoaanaaoaanaaoaanaaoaanaaoaanaaoaB+saanaaoaanaaoa/saanaaoaIbsaBpvausabvafsaBgvcEjvaBp",
    "aaBpbaaaaabacaabbaaaaabaaaaabaaaaabadaaabaaaabbaaaafbabdacaaabaaaaabaaaaabaaaaabaaaaabaaaaabaaaa",
    "abaaaaabaaaaabaaaaabaaaaabaaaaabaaaaabaaaaabaaaaabaaaaabaaaaabaaaaabaaaaabaaaaabaaaaabaaaaabaaaa",
    "abaaaaabaaaaabaaaaabaaaaabaaaaabaaaaabaaaaabaaaaabaaaaabaaaaabaaaaabaaaaabaaaaabaaaaabaaaaabaaaa",
    "abaaaaabaaaaabaaaaabaaaaabaaaaabaaaaabaaaaabaaaaabaaaaabaaaaabaaaabbafvaaaaabaaaaabacfaaaaabfdra",
    "akabraBfbbabfabcBxehadaaroafawejgebgebgebgebgebgebgebgeb/fabraapaaqaapaaqacraapaaqaaraapaaqairaa",
    "mabraamaaraapaaqabraapaaqaanaaoaanaaoaanaaoaanaaoaeraadajrabmadraamaaraanamrabvacraanaaoaanaaoaa",
    "naaoaanaaoaamBczvbCyvmGvv6pvaawacraavaadaaeaajaanaaoaanaaoaanaaoaanaaoaanaaoabvaanaaoaanaaoaanaa",
    "oaanaaoaamaanaboaavaijadfabgaamaedabvacjaadaaeaarabvbCvecbfabuabdaaeaamaCzeaaracdaaefBkebC9ebbva",
    "dkajva/eaBfvjavapea+vbjka9vahkaavaoka/vajkaBgvaokaJ/vaGN/eaB/vaUQueaadaBDwedBwvjBheafdabraIleaad",
    "acrapeajiabeuaaaabaaaaabaaaaabaaaaabaaaaabaaaaabaaaaabaaaaabaaaaabaaaaabaaaaabaaaaabaaaaabaaaaab",
    "aaaaabaaaaabaaaaabaaaaabaaaaabaaaaabaaaaabaaaaabaaaaabaaeaafachaarajfaaraadaaaaabaaaaabaaaaabaaa",
    "aabaaaaabaaaaabaaaaabaaaaabaaaaabaaaaabaaaaabaaaaabaaaaabaaaaababdabfaCfeajjabfafriwuaidabuaaaaa",
    "baaaaabaaaaabaaaaabaaaaabaaaaabaaaacbaaaaabaaaaabaaaaabaaaaabaaaaabaaaaabaaaaabaaaaabaaaaabaaaaa",
    "baaaaabaaaaabaaaaabaaaaabaaaaabaaaaabaaaaabaaaaabaaaaabaaaaabaaaaabaaaaabaaaaabaaaaabaaaaabaaaaa",
    "baaaaabaaaaabaaaaabaaaaabaaaaabaadahbaaaaabaaaaababaaabaaaaabaaaaabaaaaabaaaaabaadabuaaaaabaaaaa",
    "baaeaaaaabaaaacbaaaaabaaaaabaaaaabaaaaabaaaaabaaaaabaaaaabaaaaabaaaaabaaaaabaeaaabaeaaabaaaaabaa",
    "aaabaaaaabaaaaabaaaaabaaaaabaaaaabadaaabaaaaababaaabaaaaabaaaaabaaaaabaaaaabaaaaabaaaaabaaaaabaa",
    "auddaaaaabaaeabdaabageaafaceaafadeaafaweabgabfaagadvaafdfkabvaataavgBteadribgaBreapgabfibrajigrf",
    "afeacraaeaarabeaafajia7eahfabraweakfabglara8edcfaagaBoeaafabgadfabgabfacgamrbadajiebraeeaafaadai",
    "eajiaeebBieaffabgabfabgabfjceaafaheaafaagcjicdrapeaadafeacvaaeaagaafaagaBreaafaaeacfabeabfaeeabf",
    "aaeaafaaeybeaadabrakeaagabfabgabraaeabdaagaafkfecfecfejgebgebBkbaauaddaibaadabueCpbaBceabgaafabg",
    "aafabgaaraagaafcjigK3demweeBqeeB5/7aGH/8aLnecDjeBggbmebfaeaafajeaasamebeebaebbebbebDleaquapvaLke",
    "aaoaanapvaB/eabvaBveahvBaleaatacvapfagraanaaoaargpfaarabmablaanaaoaanaaoaanaaoaanaaoaanaaoaanaao",
    "aanaaoaanaaoabraanaaoadraclacrbdraamaanaaoaanaaoaanaaoacraasaamacsbaraatabreeebEgeca6bcraatacraa",
    "naaoaaraasaaraamabrajiabracsabrazaaanaaraaoaauaalaauazbaanaasaaoaasaanaaoaaraanaaoabrajeaadaBmea",
    "bda+edfecfecfeccedbtaasaauaavabtbavadsabvkc6abvclebzebsebbeboecneBcD6efcreBmkdivaBujadkaqvabkacv",
    "bmvdavBpBmvaafEc8edBqepafa6ke/eadkjteaajaheaajfBfeaeff9ebaraBdeeheaaraejBkBhaaBhbaCnecjigBdaeBdb",
    "eBheiBtelarakaboabgabbabkbbobbgbbbbdBtemJwejvekheyfdbBjdbidCffecaebBlebbedaecwebarahkaweabvagka+",
    "eiikBqsebbefekaveafkdarazefarazeBgBxeebkabeapkcBnkaaeacfbbffdfadebceb8eccfeafaikhirh8eabkaara8ea",
    "ckBaheaava7eabfeekagrjBvedgravechkasefhkarehdrmgkCqCieBxBsanBsbhfkaBdeadfijigjiadeaadaaeavadefaa",
    "maadavbibsGq+kbBjebbfaamcbeqceaadabeiarahvBbffa8eajkaaeiveakfadkaerwreadfadrBgueagkuwejagaafaaga",
    "BueaofagretkajiaafabeabfaaejcfaagaBmeacgadfabgabfabraa6adraafka6cyehjigcfaBdeaefaagahfbjiadraaea",
    "bgaaeiBceaafabraaejbfaagaBpeacgaifabgadeadradfaaraagaafajiaaeaaraaeacrbtklrebyeacgacfabgaafaagab",
    "fafraafabeaafB+gebaebdeboebjeaargBoeaafacgahffjigbfabgbhecbecvebgebbebeebbfaaeabgaafadgcbgccgcae",
    "gagfeeabgcgfdefljebaecaebBfebaeacgaffbagcagbdgbbgaafaagaafaaeaafaaeabrbbribf9Bueacgahfabgacfaaga",
    "afadeaerajiabrbaraaface+BpeacgaffaagaafadgabfaagabfabeaaraaeijiFgBoeacgadfcdgabfaagabfawradeabfB",
    "cBpeacgahfabgaafaagabfacraaeljigmrtBkeaafaagaafabgaffaagaafaaeaargjigti86ecafaagaafabgadfaagaefe",
    "jiabkacraavageFzBleacgaifaagabfaarDe/aa/bajiaikmhecaechebbebxeafgbbgcbfaagaafaaeaagaaeaagaafacrj",
    "jiCghecBgeacgadfcbfadgaafaaeaaraaeaag7aeajfaBheaffaagaaeadfahraafiaeaffabgacfaBneamfaagabfacraae",
    "aernCiehjrCwafaagacfaagaafaagCyBaeaarojigiebBeeaagagfbffaagaafaaeaerkjiaskdbra9ecvfbagagfaagabfa",
    "agabfCjgebbebBfeaffdafbbfbgfaaeaafijigfebbeb/eaegbbfbbgaafaagaafaaehjigBieaadabeejiHwseabfabgabr",
    "hbfaaeaagamebBbeabgaefdbgaafaagaafamrajiaafCvaepukahvadtaqvnara2zeDgDojberlGdeCSmDaeabrnBBpeap6a",
    "afafeaofkD26efSgeGVz9ealfacgacfajiBWgRyeh+ebjiebraCoebjig9ecefaarkBpeagfaeradvaddaaraavkjibgkbue",
    "fseNqcdaBheabdacrajiGg/aa/bawkadrfyacybBmCkeeafaaeaBwghdfamdCabdaaraadaaflbgabdacjjHGveBj/eDbDse",
    "IP9ddbgdbbdbJcepae9cecaeodeiMleCIeDkefmediehjecavabfaarad6D08HpvajiacvdNtvgwvppvaaspBnfcwfjDtvB8",
    "HvvkBgvcB7vabgacfacvafgah6ahfabvagfa9vadfaB8vvCbvacfaavD6tkmtkmCwvjykEhzaazbazaagbbrbazaazbaaabb",
    "acaacbacdabhaadbbabbgbbkbazaazbababdachabgabzbababdabeabaadgabzbazaazbazaazbazaazbazaazbazaazbaz",
    "aa7bcyaaasaybaasafbayaaasaybaasafbayaaasaybaasafbayaaasaybaasafbayaaasaybaasafbaaaaabcBriaP/vaBw",
    "fadvaBrfahvaafanvaafabvaerpefbofBCqjbaaeatbgfbGvgfbqfcgfbbfbeffB9dBbafDqBmedgfagdcjieaeaavKa9eaa",
    "frBleadfajifatOq6eaadadfajiGw9eabfaaeajiearGa+ebceaafabeaafageabfaeeaafiaeaadHagebdebbeboebGeeci",
    "kagfBjBbaaBbbagfaadejiebrYrB6kaavackaatadkCmBmkaavaokGcdeb6ebbebaecaebjebdebaebaegaeeaebaebaebce",
    "bbebaecaebaebaebaebaebbebaecdebgebdebdebaebjebqefcebeebqeBubsIoBlveDdvmovcovbovbBevkmkaFavBy8vnB",
    "lveivhbvofvE6H6vaeuaWyvdqvdmvdGzvglveavplveBxvijvgBhvi9vclvebvoisBhKxvinvcmvdkvdByvbavepvclvejvh",
    "EsvbC7vajiaavBAfBJW/eBaEI9ecFUnecHJqepTneCNcQ9eBPcE0kefIJjeVS2ha6+C/6EaHpfB5QqB5598cB5598"]

def categoryTable : Array Span := rangeTable categoryText

/-- The index in `categoryNames` of the general category of a code point. -/
def category (c : Nat) : Nat := (Span.find? categoryTable c).getD unassigned

/-- The category indices that a short category name stands for: a two-letter name stands for
itself, `LC` for the cased letters `Lu`, `Ll` and `Lt`, and a one-letter name for all
categories that start with that letter. -/
def categoryGroup? (name : String) : Option (List Nat) :=
  match name with
  | "L" => some [0, 1, 2, 3, 4]
  | "LC" => some [0, 1, 2]
  | "M" => some [5, 6, 7]
  | "N" => some [8, 9, 10]
  | "P" => some [11, 12, 13, 14, 15, 16, 17]
  | "S" => some [18, 19, 20, 21]
  | "Z" => some [22, 23, 24]
  | "C" => some [25, 26, 27, 28, 29]
  | _ => (categoryNames.idxOf? name).map ([·])

/-- The long names and the other aliases of the general categories, each with the short name
it stands for, as the property value aliases of the Unicode Character Database list them. -/
def categoryAliases : List (String × String) :=
  [("Cased_Letter", "LC"), ("Close_Punctuation", "Pe"), ("Combining_Mark", "M"),
    ("Connector_Punctuation", "Pc"), ("Control", "Cc"), ("Currency_Symbol", "Sc"),
    ("Dash_Punctuation", "Pd"), ("Decimal_Number", "Nd"), ("Enclosing_Mark", "Me"),
    ("Final_Punctuation", "Pf"), ("Format", "Cf"), ("Initial_Punctuation", "Pi"),
    ("Letter", "L"), ("Letter_Number", "Nl"), ("Line_Separator", "Zl"),
    ("Lowercase_Letter", "Ll"), ("Mark", "M"), ("Math_Symbol", "Sm"), ("Modifier_Letter", "Lm"),
    ("Modifier_Symbol", "Sk"), ("Nonspacing_Mark", "Mn"), ("Number", "N"),
    ("Open_Punctuation", "Ps"), ("Other", "C"), ("Other_Letter", "Lo"), ("Other_Number", "No"),
    ("Other_Punctuation", "Po"), ("Other_Symbol", "So"), ("Paragraph_Separator", "Zp"),
    ("Private_Use", "Co"), ("Punctuation", "P"), ("Separator", "Z"), ("Space_Separator", "Zs"),
    ("Spacing_Mark", "Mc"), ("Surrogate", "Cs"), ("Symbol", "S"), ("Titlecase_Letter", "Lt"),
    ("Unassigned", "Cn"), ("Uppercase_Letter", "Lu"), ("cntrl", "Cc"), ("digit", "Nd"),
    ("punct", "P")]

/-- Printable code points: letters, marks, numbers, punctuation and symbols, and U+0020. -/
def isPrintable (c : Nat) : Bool := c == 0x20 || category c < 22

end SyntaxShade.Unicode
