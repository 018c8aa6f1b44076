import RecordRules.Text.Mark

/-!
# Composed characters

A letter with a mark can often be written as one character, too.  In the composed form of
a text marks are in the order of their classes, and every letter is joined with the marks
after it as far as there are characters for it.  Only those characters are taken apart for
it that are the composed form of their own parts; the other ones, which the composed form
never holds, are not for here.
-/

namespace RecordRules

namespace Text

/-- The letters with a mark that are characters themselves: the characters of `composites`
are those of `letters` with the mark. -/
structure MarkedRow where
  mark : Char
  letters : String
  composites : String

/-- A character that is another with a part added. -/
structure Composite where
  whole : Nat
  first : Nat
  second : Nat

/-- The composites of a row. -/
def MarkedRow.toComposites (row : MarkedRow) : List Composite :=
  (row.letters.toList.zip row.composites.toList).map fun (letter, composite) =>
    ⟨composite.toNat, letter.toNat, row.mark.toNat⟩

/-- The letters with marks of the Latin, Greek, Cyrillic and Kana scripts, and signs with a
stroke. -/
def markedRows : List MarkedRow := [
  ⟨'\u0300', "AEIOUaeiouÜüNnЕИеиĒēŌōWwÂâĂăÊêÔôƠơƯư", "ÀÈÌÒÙàèìòùǛǜǸǹЀЍѐѝḔḕṐṑẀẁẦầẰằỀềỒồỜờỪừ"⟩,
  ⟨'\u0300', "YyἀἁἈἉἐἑἘἙἠἡἨἩἰἱἸἹὀὁὈὉὐὑὙὠὡὨὩαεηιουω", "ỲỳἂἃἊἋἒἓἚἛἢἣἪἫἲἳἺἻὂὃὊὋὒὓὛὢὣὪὫὰὲὴὶὸὺὼ"⟩,
  ⟨'\u0300', "ΑΕΗ᾿ϊΙ῾ϋΥ¨ΟΩ", "ᾺῈῊ῍ῒῚ῝ῢῪ῭ῸῺ"⟩,
  ⟨'\u0301', "AEIOUYaeiouyCcLlNnRrSsZzÜüGgÅåÆæØø¨Α", "ÁÉÍÓÚÝáéíóúýĆćĹĺŃńŔŕŚśŹźǗǘǴǵǺǻǼǽǾǿ΅Ά"⟩,
  ⟨'\u0301', "ΕΗΙΟΥΩϊαεηιϋουωϒГКгкÇçĒēÏïKkMmÕõŌōPp", "ΈΉΊΌΎΏΐάέήίΰόύώϓЃЌѓќḈḉḖḗḮḯḰḱḾḿṌṍṒṓṔṕ"⟩,
  ⟨'\u0301', "ŨũWwÂâĂăÊêÔôƠơƯưἀἁἈἉἐἑἘἙἠἡἨἩἰἱἸἹὀὁὈὉ", "ṸṹẂẃẤấẮắẾếỐốỚớỨứἄἅἌἍἔἕἜἝἤἥἬἭἴἵἼἽὄὅὌὍ"⟩,
  ⟨'\u0301', "ὐὑὙὠὡὨὩ᾿῾", "ὔὕὝὤὥὬὭ῎῞"⟩,
  ⟨'\u0302', "AEIOUaeiouCcGgHhJjSsWwYyZzẠạẸẹỌọ", "ÂÊÎÔÛâêîôûĈĉĜĝĤĥĴĵŜŝŴŵŶŷẐẑẬậỆệỘộ"⟩,
  ⟨'\u0303', "ANOanoIiUuVvÂâĂăEeÊêÔôƠơƯưYy", "ÃÑÕãñõĨĩŨũṼṽẪẫẴẵẼẽỄễỖỗỠỡỮữỸỹ"⟩,
  ⟨'\u0304', "AaEeIiOoUuÜüÄäȦȧÆæǪǫÖöÕõȮȯYyИиУуGgḶḷ", "ĀāĒēĪīŌōŪūǕǖǞǟǠǡǢǣǬǭȪȫȬȭȰȱȲȳӢӣӮӯḠḡḸḹ"⟩,
  ⟨'\u0304', "ṚṛαΑιΙυΥ", "ṜṝᾱᾹῑῙῡῩ"⟩,
  ⟨'\u0306', "AaEeGgIiOoUuУИиуЖжАаЕеȨȩẠạαΑιΙυΥ", "ĂăĔĕĞğĬĭŎŏŬŭЎЙйўӁӂӐӑӖӗḜḝẶặᾰᾸῐῘῠῨ"⟩,
  ⟨'\u0307', "CcEeGgIZzAaOoBbDdFfHhMmNnPpRrSsŚśŠšṢ", "ĊċĖėĠġİŻżȦȧȮȯḂḃḊḋḞḟḢḣṀṁṄṅṖṗṘṙṠṡṤṥṦṧṨ"⟩,
  ⟨'\u0307', "ṣTtWwXxYyſ", "ṩṪṫẆẇẊẋẎẏẛ"⟩,
  ⟨'\u0308', "AEIOUaeiouyYΙΥιυϒЕІеіАаӘәЖжЗзИиОоӨөЭ", "ÄËÏÖÜäëïöüÿŸΪΫϊϋϔЁЇёїӒӓӚӛӜӝӞӟӤӥӦӧӪӫӬ"⟩,
  ⟨'\u0308', "эУуЧчЫыHhÕõŪūWwXxt", "ӭӰӱӴӵӸӹḦḧṎṏṺṻẄẅẌẍẗ"⟩,
  ⟨'\u0309', "AaÂâĂăEeÊêIiOoÔôƠơUuƯưYy", "ẢảẨẩẲẳẺẻỂểỈỉỎỏỔổỞởỦủỬửỶỷ"⟩,
  ⟨'\u030a', "AaUuwy", "ÅåŮůẘẙ"⟩,
  ⟨'\u030b', "OoUuУу", "ŐőŰűӲӳ"⟩,
  ⟨'\u030c', "CcDdEeLlNnRrSsTtZzAaIiOoUuÜüGgKkƷʒjH", "ČčĎďĚěĽľŇňŘřŠšŤťŽžǍǎǏǐǑǒǓǔǙǚǦǧǨǩǮǯǰȞ"⟩,
  ⟨'\u030c', "h", "ȟ"⟩,
  ⟨'\u030f', "AaEeIiOoRrUuѴѵ", "ȀȁȄȅȈȉȌȍȐȑȔȕѶѷ"⟩,
  ⟨'\u0311', "AaEeIiOoRrUu", "ȂȃȆȇȊȋȎȏȒȓȖȗ"⟩,
  ⟨'\u0313', "αΑεΕηΗιΙοΟυωΩρ", "ἀἈἐἘἠἨἰἸὀὈὐὠὨῤ"⟩,
  ⟨'\u0314', "αΑεΕηΗιΙοΟυΥωΩρΡ", "ἁἉἑἙἡἩἱἹὁὉὑὙὡὩῥῬ"⟩,
  ⟨'\u031b', "OoUu", "ƠơƯư"⟩,
  ⟨'\u0323', "BbDdHhKkLlMmNnRrSsTtVvWwZzAaEeIiOoƠơ", "ḄḅḌḍḤḥḲḳḶḷṂṃṆṇṚṛṢṣṬṭṾṿẈẉẒẓẠạẸẹỊịỌọỢợ"⟩,
  ⟨'\u0323', "UuƯưYy", "ỤụỰựỴỵ"⟩,
  ⟨'\u0324', "Uu", "Ṳṳ"⟩,
  ⟨'\u0325', "Aa", "Ḁḁ"⟩,
  ⟨'\u0326', "SsTt", "ȘșȚț"⟩,
  ⟨'\u0327', "CcGgKkLlNnRrSsTtEeDdHh", "ÇçĢģĶķĻļŅņŖŗŞşŢţȨȩḐḑḨḩ"⟩,
  ⟨'\u0328', "AaEeIiUuOo", "ĄąĘęĮįŲųǪǫ"⟩,
  ⟨'\u032d', "DdEeLlNnTtUu", "ḒḓḘḙḼḽṊṋṰṱṶṷ"⟩,
  ⟨'\u032e', "Hh", "Ḫḫ"⟩,
  ⟨'\u0330', "EeIiUu", "ḚḛḬḭṴṵ"⟩,
  ⟨'\u0331', "BbDdKkLlNnRrTtZzh", "ḆḇḎḏḴḵḺḻṈṉṞṟṮṯẔẕẖ"⟩,
  ⟨'\u0338', "←→↔⇐⇔⇒∃∈∋∣∥∼≃≅≈=≡≍<>≤≥≲≳≶≷≺≻⊂⊃⊆⊇⊢⊨⊩⊫", "↚↛↮⇍⇎⇏∄∉∌∤∦≁≄≇≉≠≢≭≮≯≰≱≴≵≸≹⊀⊁⊄⊅⊈⊉⊬⊭⊮⊯"⟩,
  ⟨'\u0338', "≼≽⊑⊒⊲⊳⊴⊵", "⋠⋡⋢⋣⋪⋫⋬⋭"⟩,
  ⟨'\u0342', "ἀἁἈἉἠἡἨἩἰἱἸἹὐὑὙὠὡὨὩα¨η᾿ιϊ῾υϋω", "ἆἇἎἏἦἧἮἯἶἷἾἿὖὗὟὦὧὮὯᾶ῁ῆ῏ῖῗ῟ῦῧῶ"⟩,
  ⟨'\u0345', "ἀἁἂἃἄἅἆἇἈἉἊἋἌἍἎἏἠἡἢἣἤἥἦἧἨἩἪἫἬἭἮἯὠὡὢὣ", "ᾀᾁᾂᾃᾄᾅᾆᾇᾈᾉᾊᾋᾌᾍᾎᾏᾐᾑᾒᾓᾔᾕᾖᾗᾘᾙᾚᾛᾜᾝᾞᾟᾠᾡᾢᾣ"⟩,
  ⟨'\u0345', "ὤὥὦὧὨὩὪὫὬὭὮὯὰαάᾶΑὴηήῆΗὼωώῶΩ", "ᾤᾥᾦᾧᾨᾩᾪᾫᾬᾭᾮᾯᾲᾳᾴᾷᾼῂῃῄῇῌῲῳῴῷῼ"⟩,
  ⟨'\u3099', "かきくけこさしすせそたちつてとはひふへほうゝカキクケコサシスセソタチツテ", "がぎぐげござじずぜぞだぢづでどばびぶべぼゔゞガギグゲゴザジズゼゾダヂヅデ"⟩,
  ⟨'\u3099', "トハヒフヘホウワヰヱヲヽ", "ドバビブベボヴヷヸヹヺヾ"⟩,
  ⟨'\u309a', "はひふへほハヒフヘホ", "ぱぴぷぺぽパピプペポ"⟩]

/-- The other composites. -/
def otherComposites : List Composite := [
  ⟨0x622, 0x627, 0x653⟩, ⟨0x623, 0x627, 0x654⟩, ⟨0x624, 0x648, 0x654⟩, ⟨0x625, 0x627, 0x655⟩,
  ⟨0x626, 0x64a, 0x654⟩, ⟨0x6c0, 0x6d5, 0x654⟩, ⟨0x6c2, 0x6c1, 0x654⟩, ⟨0x6d3, 0x6d2, 0x654⟩,
  ⟨0x929, 0x928, 0x93c⟩, ⟨0x931, 0x930, 0x93c⟩, ⟨0x934, 0x933, 0x93c⟩, ⟨0x9cb, 0x9c7, 0x9be⟩,
  ⟨0x9cc, 0x9c7, 0x9d7⟩, ⟨0xb48, 0xb47, 0xb56⟩, ⟨0xb4b, 0xb47, 0xb3e⟩, ⟨0xb4c, 0xb47, 0xb57⟩,
  ⟨0xb94, 0xb92, 0xbd7⟩, ⟨0xbca, 0xbc6, 0xbbe⟩, ⟨0xbcb, 0xbc7, 0xbbe⟩, ⟨0xbcc, 0xbc6, 0xbd7⟩,
  ⟨0xc48, 0xc46, 0xc56⟩, ⟨0xcc0, 0xcbf, 0xcd5⟩, ⟨0xcc7, 0xcc6, 0xcd5⟩, ⟨0xcc8, 0xcc6, 0xcd6⟩,
  ⟨0xcca, 0xcc6, 0xcc2⟩, ⟨0xccb, 0xcca, 0xcd5⟩, ⟨0xd4a, 0xd46, 0xd3e⟩, ⟨0xd4b, 0xd47, 0xd3e⟩,
  ⟨0xd4c, 0xd46, 0xd57⟩, ⟨0xdda, 0xdd9, 0xdca⟩, ⟨0xddc, 0xdd9, 0xdcf⟩, ⟨0xddd, 0xddc, 0xdca⟩,
  ⟨0xdde, 0xdd9, 0xddf⟩, ⟨0x1026, 0x1025, 0x102e⟩, ⟨0x1b06, 0x1b05, 0x1b35⟩,
  ⟨0x1b08, 0x1b07, 0x1b35⟩, ⟨0x1b0a, 0x1b09, 0x1b35⟩, ⟨0x1b0c, 0x1b0b, 0x1b35⟩,
  ⟨0x1b0e, 0x1b0d, 0x1b35⟩, ⟨0x1b12, 0x1b11, 0x1b35⟩, ⟨0x1b3b, 0x1b3a, 0x1b35⟩,
  ⟨0x1b3d, 0x1b3c, 0x1b35⟩, ⟨0x1b40, 0x1b3e, 0x1b35⟩, ⟨0x1b41, 0x1b3f, 0x1b35⟩,
  ⟨0x1b43, 0x1b42, 0x1b35⟩, ⟨0x105c9, 0x105d2, 0x307⟩, ⟨0x105e4, 0x105da, 0x307⟩,
  ⟨0x1109a, 0x11099, 0x110ba⟩, ⟨0x1109c, 0x1109b, 0x110ba⟩, ⟨0x110ab, 0x110a5, 0x110ba⟩,
  ⟨0x1112e, 0x11131, 0x11127⟩, ⟨0x1112f, 0x11132, 0x11127⟩, ⟨0x1134b, 0x11347, 0x1133e⟩,
  ⟨0x1134c, 0x11347, 0x11357⟩, ⟨0x11383, 0x11382, 0x113c9⟩, ⟨0x11385, 0x11384, 0x113bb⟩,
  ⟨0x1138e, 0x1138b, 0x113c2⟩, ⟨0x11391, 0x11390, 0x113c9⟩, ⟨0x113c5, 0x113c2, 0x113c2⟩,
  ⟨0x113c7, 0x113c2, 0x113b8⟩, ⟨0x113c8, 0x113c2, 0x113c9⟩, ⟨0x114bb, 0x114b9, 0x114ba⟩,
  ⟨0x114bc, 0x114b9, 0x114b0⟩, ⟨0x114be, 0x114b9, 0x114bd⟩, ⟨0x115ba, 0x115b8, 0x115af⟩,
  ⟨0x115bb, 0x115b9, 0x115af⟩, ⟨0x11938, 0x11935, 0x11930⟩, ⟨0x16121, 0x1611e, 0x1611e⟩,
  ⟨0x16122, 0x1611e, 0x16129⟩, ⟨0x16123, 0x1611e, 0x1611f⟩, ⟨0x16124, 0x16129, 0x1611f⟩,
  ⟨0x16125, 0x1611e, 0x16120⟩, ⟨0x16126, 0x16121, 0x1611f⟩, ⟨0x16127, 0x16122, 0x1611f⟩,
  ⟨0x16128, 0x16121, 0x16120⟩, ⟨0x16d68, 0x16d67, 0x16d67⟩, ⟨0x16d69, 0x16d63, 0x16d67⟩,
  ⟨0x16d6a, 0x16d69, 0x16d67⟩]

/-- All composites but the syllables of Hangul. -/
def composites : List Composite :=
  markedRows.flatMap MarkedRow.toComposites ++ otherComposites

/-! ## Hangul

A syllable is made of a leading consonant, a vowel and perhaps a trailing consonant.  All
syllables stand in the order of their parts. -/

/-- A character is one of so many from a code point on. -/
def isOneOf (first count : Nat) (c : Char) : Bool :=
  first ≤ c.toNat && c.toNat < first + count

/-- The parts of a syllable. -/
def syllableParts (c : Char) : List Char :=
  let index := c.toNat - 0xac00
  let trail := index % 28
  Char.ofNat (0x1100 + index / 588) :: Char.ofNat (0x1161 + index % 588 / 28) ::
    if trail = 0 then [] else [Char.ofNat (0x11a7 + trail)]

/-- The syllable of a consonant and a vowel, or of a syllable and a trailing consonant. -/
def syllable? (a b : Char) : Option Char :=
  if isOneOf 0x1100 19 a && isOneOf 0x1161 21 b then
    some (Char.ofNat (0xac00 + 588 * (a.toNat - 0x1100) + 28 * (b.toNat - 0x1161)))
  else if isOneOf 0xac00 11172 a && (a.toNat - 0xac00) % 28 = 0 && isOneOf 0x11a8 27 b then
    some (Char.ofNat (a.toNat + (b.toNat - 0x11a7)))
  else none

/-! ## The composed form -/

/-- The parts of a character; a part may have parts in turn, so the number bounds how
deep that goes. -/
def parts : Nat → Char → List Char
  | 0, c => [c]
  | depth + 1, c =>
    if c < '\u00c0' then [c]
    else if isOneOf 0xac00 11172 c then syllableParts c
    else match composites.find? fun composite => composite.whole == c.toNat with
      | some ⟨_, first, second⟩ => parts depth (Char.ofNat first) ++ [Char.ofNat second]
      | none => [c]

/-- A character goes before the marks at the front that have a greater class. -/
def insertMark (c : Char) (marks : List Char) : List Char :=
  let rank := combiningClass c
  if rank = 0 then c :: marks
  else
    let lower := marks.takeWhile fun mark =>
      0 < combiningClass mark && combiningClass mark < rank
    lower ++ c :: marks.drop lower.length

/-- The text with its marks in the order of their classes; marks of one class stay as
they are. -/
def ordered (cs : List Char) : List Char :=
  cs.foldr insertMark []

/-- The one character that two make up. -/
def composite? (a b : Char) : Option Char :=
  match syllable? a b with
  | some c => some c
  | none =>
    (composites.find? fun composite =>
      composite.first == a.toNat && composite.second == b.toNat).map fun composite =>
        Char.ofNat composite.whole

/-- Joins a starter with the characters after it: those that did not join follow it in
`between`, and a character joins only if none of its class or a greater one is between. -/
def join (starter : Char) (between : List Char) : List Char → List Char
  | [] => starter :: between
  | c :: cs =>
    let rank := combiningClass c
    let isFree : Bool := (between.getLast?).all fun last => combiningClass last < rank
    match if isFree then composite? starter c else none with
    | some whole => join whole between cs
    | none =>
      if rank = 0 then starter :: between ++ join c [] cs
      else join starter (between ++ [c]) cs

/-- The composed form of a text. -/
def composed (cs : List Char) : List Char :=
  let apart := ordered (cs.flatMap (parts 4))
  let isLoose (c : Char) : Bool := combiningClass c ≠ 0
  apart.takeWhile isLoose ++
    match apart.dropWhile isLoose with
    | [] => []
    | c :: cs => join c [] cs

end Text

end RecordRules
