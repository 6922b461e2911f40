/-!
# Characters that a label cannot keep

Preparing a label drops a character, replaces it by others or refuses it.
-/

namespace Crontab.Text.Prepared

/-- Characters beyond ASCII that are not kept, as ranges. -/
def changed : List (Nat × Nat) :=
  [(0x0080, 0x00A0), (0x00B2, 0x00B5), (0x00B8, 0x00BA), (0x00BC, 0x00BE), (0x00C0, 0x00D6),
    (0x00D8, 0x00DF), (0x0132, 0x0134), (0x0136, 0x0136), (0x013F, 0x0141), (0x0149, 0x014A),
    (0x0178, 0x0179), (0x0181, 0x0182), (0x0184, 0x0184), (0x0186, 0x0187), (0x0189, 0x018B),
    (0x018E, 0x0191), (0x0193, 0x0194), (0x0196, 0x0198), (0x019C, 0x019D), (0x019F, 0x01A0),
    (0x01A6, 0x01A7), (0x01A9, 0x01A9), (0x01AC, 0x01AC), (0x01AE, 0x01AF), (0x01B1, 0x01B3),
    (0x01B5, 0x01B5), (0x01B7, 0x01B8), (0x01BC, 0x01BC), (0x01C4, 0x01CD), (0x01F1, 0x01F4),
    (0x01F6, 0x01F8), (0x023A, 0x023B), (0x023D, 0x023E), (0x0241, 0x0241), (0x0243, 0x0246),
    (0x02B0, 0x02B8), (0x02D8, 0x02DD), (0x02E0, 0x02E4), (0x0340, 0x0341), (0x0343, 0x0345),
    (0x034F, 0x034F), (0x037A, 0x037A), (0x037E, 0x037F), (0x0384, 0x038A), (0x038C, 0x038C),
    (0x038E, 0x038F), (0x0391, 0x03A1), (0x03A3, 0x03AB), (0x03C2, 0x03C2), (0x03CF, 0x03D6),
    (0x03F0, 0x03F2), (0x03F4, 0x03F5), (0x03F7, 0x03F7), (0x03F9, 0x03FA), (0x03FD, 0x042F),
    (0x04C0, 0x04C1), (0x0531, 0x0556), (0x0587, 0x0587), (0x0675, 0x0678), (0x06DD, 0x06DD),
    (0x070F, 0x070F), (0x0958, 0x095F), (0x09DC, 0x09DD), (0x09DF, 0x09DF), (0x0A33, 0x0A33),
    (0x0A36, 0x0A36), (0x0A59, 0x0A5B), (0x0A5E, 0x0A5E), (0x0B5C, 0x0B5D), (0x0E33, 0x0E33),
    (0x0EB3, 0x0EB3), (0x0EDC, 0x0EDD), (0x0F0C, 0x0F0C), (0x0F43, 0x0F43), (0x0F4D, 0x0F4D),
    (0x0F52, 0x0F52), (0x0F57, 0x0F57), (0x0F5C, 0x0F5C), (0x0F69, 0x0F69), (0x0F73, 0x0F73),
    (0x0F75, 0x0F79), (0x0F81, 0x0F81), (0x0F93, 0x0F93), (0x0F9D, 0x0F9D), (0x0FA2, 0x0FA2),
    (0x0FA7, 0x0FA7), (0x0FAC, 0x0FAC), (0x0FB9, 0x0FB9), (0x10A0, 0x10C5), (0x10C7, 0x10C7),
    (0x10CD, 0x10CD), (0x13A0, 0x13F5), (0x1680, 0x1680), (0x1806, 0x1806), (0x180B, 0x180E),
    (0x1C90, 0x1CBA), (0x1CBD, 0x1CBF), (0x1E9A, 0x1E9B), (0x1F08, 0x1F0F), (0x1F18, 0x1F1D),
    (0x1F28, 0x1F2F), (0x1F38, 0x1F3F), (0x1F48, 0x1F4D), (0x1F68, 0x1F6F), (0x1F80, 0x1FAF),
    (0x1FB2, 0x1FB4), (0x1FB7, 0x1FC4), (0x1FC7, 0x1FCF), (0x1FD3, 0x1FD3), (0x1FD8, 0x1FDB),
    (0x1FDD, 0x1FDF), (0x1FE3, 0x1FE3), (0x1FE8, 0x1FEF), (0x1FF2, 0x1FF4), (0x1FF7, 0x1FFE),
    (0x2000, 0x200F), (0x2011, 0x2011), (0x2017, 0x2017), (0x2024, 0x2026), (0x2028, 0x202F),
    (0x2033, 0x2034), (0x2036, 0x2037), (0x2047, 0x2049), (0x2057, 0x2057), (0x205F, 0x2063),
    (0x206A, 0x2071), (0x2074, 0x208E), (0x20A8, 0x20A8), (0x2100, 0x2103), (0x2105, 0x2107),
    (0x2109, 0x2113), (0x2115, 0x2116), (0x2119, 0x211D), (0x2120, 0x2122), (0x212A, 0x212D),
    (0x212F, 0x2139), (0x213D, 0x2140), (0x2145, 0x2149), (0x2153, 0x217F), (0x2183, 0x2183),
    (0x222C, 0x222D), (0x222F, 0x2230), (0x2329, 0x232A), (0x2460, 0x24EA), (0x2A0C, 0x2A0C),
    (0x2A74, 0x2A76), (0x2ADC, 0x2ADC), (0x2C00, 0x2C2F), (0x2C60, 0x2C60), (0x2C62, 0x2C64),
    (0x2C6D, 0x2C70), (0x2C72, 0x2C72), (0x2C75, 0x2C75), (0x2C7E, 0x2C80), (0x2CF2, 0x2CF2),
    (0x2E9F, 0x2E9F), (0x2EF3, 0x2EF3), (0x2F00, 0x2FD5), (0x2FF0, 0x2FFB), (0x3000, 0x3000),
    (0x3036, 0x3036), (0x3038, 0x303A), (0x309B, 0x309C), (0x309F, 0x309F), (0x30FF, 0x30FF),
    (0x3131, 0x318E), (0x3192, 0x319F), (0x3200, 0x321C), (0x3220, 0x3243), (0x3251, 0x327B),
    (0x3280, 0x32CB), (0x32D0, 0x32FE), (0x3300, 0x3376), (0x337B, 0x33DD), (0x33E0, 0x33FE),
    (0xA77D, 0xA77E), (0xA7AA, 0xA7AE), (0xA7B0, 0xA7B4), (0xA7C4, 0xA7C7), (0xA7C9, 0xA7C9),
    (0xA7D0, 0xA7D0), (0xA7F5, 0xA7F5), (0xD800, 0xFA0D), (0xFA15, 0xFA1E), (0xFA25, 0xFA26),
    (0xFA2A, 0xFA2D), (0xFA30, 0xFA6A), (0xFB00, 0xFB06), (0xFB13, 0xFB17), (0xFB1D, 0xFB1D),
    (0xFB1F, 0xFB36), (0xFB38, 0xFB3C), (0xFB3E, 0xFB3E), (0xFB40, 0xFB41), (0xFB43, 0xFB44),
    (0xFB46, 0xFBB1), (0xFBD3, 0xFD3D), (0xFD50, 0xFD8F), (0xFD92, 0xFDC7), (0xFDD0, 0xFDFC),
    (0xFE00, 0xFE0F), (0xFE30, 0xFE44), (0xFE49, 0xFE52), (0xFE54, 0xFE66), (0xFE68, 0xFE6B),
    (0xFE70, 0xFE72), (0xFE74, 0xFE74), (0xFE76, 0xFEFC), (0xFEFF, 0xFEFF), (0xFF01, 0xFFBE),
    (0xFFC2, 0xFFC7), (0xFFCA, 0xFFCF), (0xFFD2, 0xFFD7), (0xFFDA, 0xFFDC), (0xFFE0, 0xFFE6),
    (0xFFE8, 0xFFEE), (0xFFF9, 0xFFFF), (0x10400, 0x10427), (0x104B0, 0x104D3),
    (0x10570, 0x1057A), (0x1057C, 0x1058A), (0x1058C, 0x10592), (0x10594, 0x10595),
    (0x10C80, 0x10CB2), (0x118A0, 0x118BF), (0x16E40, 0x16E5F), (0x1D15E, 0x1D164),
    (0x1D173, 0x1D17A), (0x1D1BB, 0x1D1C0), (0x1D400, 0x1D454), (0x1D456, 0x1D49C),
    (0x1D49E, 0x1D49F), (0x1D4A2, 0x1D4A2), (0x1D4A5, 0x1D4A6), (0x1D4A9, 0x1D4AC),
    (0x1D4AE, 0x1D4B9), (0x1D4BB, 0x1D4BB), (0x1D4BD, 0x1D4C0), (0x1D4C2, 0x1D4C3),
    (0x1D4C5, 0x1D505), (0x1D507, 0x1D50A), (0x1D50D, 0x1D514), (0x1D516, 0x1D51C),
    (0x1D51E, 0x1D539), (0x1D53B, 0x1D53E), (0x1D540, 0x1D544), (0x1D546, 0x1D546),
    (0x1D54A, 0x1D550), (0x1D552, 0x1D6A3), (0x1D6A8, 0x1D7C9), (0x1D7CE, 0x1D7FF),
    (0x1E900, 0x1E921), (0x1FFFE, 0x1FFFF), (0x2F800, 0x2FA1D), (0x2FFFE, 0x2FFFF),
    (0x3FFFE, 0x3FFFF), (0x4FFFE, 0x4FFFF), (0x5FFFE, 0x5FFFF), (0x6FFFE, 0x6FFFF),
    (0x7FFFE, 0x7FFFF), (0x8FFFE, 0x8FFFF), (0x9FFFE, 0x9FFFF), (0xAFFFE, 0xAFFFF),
    (0xBFFFE, 0xBFFFF), (0xCFFFE, 0xCFFFF), (0xDFFFE, 0xDFFFF), (0xE0001, 0xE0001),
    (0xE0020, 0xE007F), (0xEFFFE, 0x10FFFF)]

/-- Ranges in which every second character, from the first on, is not kept. -/
def changedInTurn : List (Nat × Nat) :=
  [(0x00A8, 0x00AA), (0x00AD, 0x00AF), (0x0100, 0x0130), (0x0139, 0x013D), (0x0143, 0x0147),
    (0x014C, 0x0176), (0x017B, 0x017F), (0x01A2, 0x01A4), (0x01CF, 0x01DB), (0x01DE, 0x01EE),
    (0x01FA, 0x0232), (0x0248, 0x024E), (0x0370, 0x0376), (0x03D8, 0x03EE), (0x0460, 0x0480),
    (0x048A, 0x04BE), (0x04C3, 0x04CD), (0x04D0, 0x052E), (0x1E00, 0x1E94), (0x1E9E, 0x1EFE),
    (0x1F59, 0x1F5F), (0x1F71, 0x1F7D), (0x203C, 0x203E), (0x2124, 0x2128), (0x2C67, 0x2C6B),
    (0x2C82, 0x2CE2), (0x2CEB, 0x2CED), (0xA640, 0xA66C), (0xA680, 0xA69A), (0xA722, 0xA72E),
    (0xA732, 0xA76E), (0xA779, 0xA77B), (0xA780, 0xA786), (0xA78B, 0xA78D), (0xA790, 0xA792),
    (0xA796, 0xA7A8), (0xA7B6, 0xA7C2), (0xA7D6, 0xA7D8), (0xFA10, 0xFA12), (0xFA20, 0xFA22)]

end Crontab.Text.Prepared
