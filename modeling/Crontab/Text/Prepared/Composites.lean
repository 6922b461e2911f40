/-!
# Composite letters

A letter and a mark that are written as one character. Both kinds of text mean the same, and the one
character is preferred.
-/

namespace Crontab.Text.Prepared

/-- The marks, each with letters and with what these become. -/
def composites : List (Nat × String × String) :=
  [(0x0300, "aeinouwyâêôüăēōơưαεηιουωϊϋеиἀἁἐἑἠἡἰἱὀὁὐὑὠὡ",
      "àèìǹòùẁỳầềồǜằḕṑờừὰὲὴὶὸὺὼῒῢѐѝἂἃἒἓἢἣἲἳὂὃὒὓὢὣ"),
    (0x0301, "acegiklmnoprsuwyzâåæçêïôõøüăēōũơưαεηιουωϊϋгкἀἁἐἑἠἡἰἱὀὁὐὑὠὡ",
      "áćéǵíḱĺḿńóṕŕśúẃýźấǻǽḉếḯốṍǿǘắḗṓṹớứάέήίόύώΐΰѓќἄἅἔἕἤἥἴἵὄὅὔὕὤὥ"),
    (0x0302, "aceghijosuwyzạẹọ", "âĉêĝĥîĵôŝûŵŷẑậệộ"), (0x0303, "aeinouvyâêôăơư", "ãẽĩñõũṽỹẫễỗẵỡữ"),
    (0x0304, "aegiouyäæõöüǫȧȯαιυиуḷṛ", "āēḡīōūȳǟǣȭȫǖǭǡȱᾱῑῡӣӯḹṝ"),
    (0x0306, "aegiouȩαιυаежиуạ", "ăĕğĭŏŭḝᾰῐῠӑӗӂйўặ"),
    (0x0307, "abcdefghmnoprstwxyzśšṣ", "ȧḃċḋėḟġḣṁṅȯṗṙṡṫẇẋẏżṥṧṩ"),
    (0x0308, "aehiotuwxyõūιυаежзиоучыэіәө", "äëḧïöẗüẅẍÿṏṻϊϋӓёӝӟӥӧӱӵӹӭїӛӫ"),
    (0x0309, "aeiouyâêôăơư", "ảẻỉỏủỷẩểổẳởử"), (0x030A, "auwy", "åůẘẙ"), (0x030B, "ouу", "őűӳ"),
    (0x030C, "acdeghijklnorstuzüʒ", "ǎčďěǧȟǐǰǩľňǒřšťǔžǚǯ"), (0x030F, "aeioruѵ", "ȁȅȉȍȑȕѷ"),
    (0x0311, "aeioru", "ȃȇȋȏȓȗ"), (0x0313, "αεηιορυω", "ἀἐἠἰὀῤὐὠ"),
    (0x0314, "αεηιορυω", "ἁἑἡἱὁῥὑὡ"), (0x031B, "ou", "ơư"),
    (0x0323, "abdehiklmnorstuvwyzơư", "ạḅḍẹḥịḳḷṃṇọṛṣṭụṿẉỵẓợự"), (0x0324, "u", "ṳ"),
    (0x0325, "a", "ḁ"), (0x0326, "st", "șț"), (0x0327, "cdeghklnrst", "çḑȩģḩķļņŗşţ"),
    (0x0328, "aeiou", "ąęįǫų"), (0x032D, "delntu", "ḓḙḽṋṱṷ"), (0x032E, "h", "ḫ"),
    (0x0330, "eiu", "ḛḭṵ"), (0x0331, "bdhklnrtz", "ḇḏẖḵḻṉṟṯẕ"),
    (0x0338, "<=>←→↔⇐⇒⇔∃∈∋∣∥∼≃≅≈≍≡≤≥≲≳≶≷≺≻≼≽⊂⊃⊆⊇⊑⊒⊢⊨⊩⊫⊲⊳⊴⊵",
      "≮≠≯↚↛↮⇍⇏⇎∄∉∌∤∦≁≄≇≉≭≢≰≱≴≵≸≹⊀⊁⋠⋡⊄⊅⊈⊉⋢⋣⊬⊭⊮⊯⋪⋫⋬⋭"),
    (0x0342, "αηιυωϊϋἀἁἠἡἰἱὐὑὠὡ", "ᾶῆῖῦῶῗῧἆἇἦἧἶἷὖὗὦὧ"), (0x0653, "\u0627", "\u0622"),
    (0x0654, "\u0627\u0648\u064a\u06c1\u06d2\u06d5", "\u0623\u0624\u0626\u06c2\u06d3\u06c0"),
    (0x0655, "\u0627", "\u0625"), (0x093C, "नरळ", "ऩऱऴ"), (0x09BE, "\u09c7", "\u09cb"),
    (0x09D7, "\u09c7", "\u09cc"), (0x0B3E, "\u0b47", "\u0b4b"), (0x0B56, "\u0b47", "\u0b48"),
    (0x0B57, "\u0b47", "\u0b4c"), (0x0BBE, "\u0bc6\u0bc7", "\u0bca\u0bcb"),
    (0x0BD7, "ஒ\u0bc6", "ஔ\u0bcc"), (0x0C56, "\u0c46", "\u0c48"), (0x0CC2, "\u0cc6", "\u0cca"),
    (0x0CD5, "\u0cbf\u0cc6\u0cca", "\u0cc0\u0cc7\u0ccb"), (0x0CD6, "\u0cc6", "\u0cc8"),
    (0x0D3E, "\u0d46\u0d47", "\u0d4a\u0d4b"), (0x0D57, "\u0d46", "\u0d4c"),
    (0x0DCA, "\u0dd9\u0ddc", "\u0dda\u0ddd"), (0x0DCF, "\u0dd9", "\u0ddc"),
    (0x0DDF, "\u0dd9", "\u0dde"), (0x102E, "ဥ", "ဦ"),
    (0x1B35, "ᬅᬇᬉᬋᬍᬑ\u1b3a\u1b3c\u1b3e\u1b3f\u1b42", "ᬆᬈᬊᬌᬎᬒ\u1b3b\u1b3d\u1b40\u1b41\u1b43"),
    (0x3099, "うかきくけこさしすせそたちつてとはひふへほゝウカキクケコサシスセソタチツテトハヒフヘホワヰヱヲヽ",
      "ゔがぎぐげござじずぜぞだぢづでどばびぶべぼゞヴガギグゲゴザジズゼゾダヂヅデドバビブベボヷヸヹヺヾ"),
    (0x309A, "はひふへほハヒフヘホ", "ぱぴぷぺぽパピプペポ"), (0x110BA, "𑂙𑂛𑂥", "𑂚𑂜𑂫"), (0x11127, "𑄱𑄲", "𑄮𑄯"),
    (0x1133E, "𑍇", "𑍋"), (0x11357, "𑍇", "𑍌"), (0x114B0, "𑒹", "𑒼"), (0x114BA, "𑒹", "𑒻"),
    (0x114BD, "𑒹", "𑒾"), (0x115AF, "𑖸𑖹", "𑖺𑖻"), (0x11930, "𑤵", "𑤸")]

end Crontab.Text.Prepared
