import GraphPath.Text.Ranges

/-!
# Marks

Marks stand on the letter before them. Each has a **combining class**: marks of different
classes on one letter stand at different places, so that their order does not matter, and
`0` is the class of marks, like that of all letters, whose order does matter. The tables
tell apart the code points that can stand in a label and no others.

* `CodePoint.isMark` — whether a code point is a mark;
* `CodePoint.isWeakMark` — whether it takes the direction of its letter;
* `CodePoint.combiningClass` — the combining class of a code point.
-/

namespace GraphPath

/-- Marks that take the direction of their letter: first, last and combining class. -/
private def weakMarks : List (Nat × Nat × Nat) := [
  (0x0300, 0x0314, 230), (0x0315, 0x0315, 232), (0x0316, 0x0319, 220), (0x031A, 0x031A, 232),
  (0x031B, 0x031B, 216), (0x031C, 0x0320, 220), (0x0321, 0x0322, 202), (0x0323, 0x0326, 220),
  (0x0327, 0x0328, 202), (0x0329, 0x0333, 220), (0x0334, 0x0338, 1), (0x0339, 0x033C, 220),
  (0x033D, 0x0346, 230), (0x0347, 0x0349, 220), (0x034A, 0x034C, 230), (0x034D, 0x034E, 220),
  (0x0350, 0x0352, 230), (0x0353, 0x0356, 220), (0x0357, 0x0357, 230), (0x0358, 0x0358, 232),
  (0x0359, 0x035A, 220), (0x035B, 0x035B, 230), (0x035C, 0x035C, 233), (0x035D, 0x035E, 234),
  (0x035F, 0x035F, 233), (0x0360, 0x0361, 234), (0x0362, 0x0362, 233), (0x0363, 0x036F, 230),
  (0x0483, 0x0487, 230), (0x0591, 0x0591, 220), (0x0592, 0x0595, 230), (0x0596, 0x0596, 220),
  (0x0597, 0x0599, 230), (0x059A, 0x059A, 222), (0x059B, 0x059B, 220), (0x059C, 0x05A1, 230),
  (0x05A2, 0x05A7, 220), (0x05A8, 0x05A9, 230), (0x05AA, 0x05AA, 220), (0x05AB, 0x05AC, 230),
  (0x05AD, 0x05AD, 222), (0x05AE, 0x05AE, 228), (0x05AF, 0x05AF, 230), (0x05B0, 0x05B0, 10),
  (0x05B1, 0x05B1, 11), (0x05B2, 0x05B2, 12), (0x05B3, 0x05B3, 13), (0x05B4, 0x05B4, 14),
  (0x05B5, 0x05B5, 15), (0x05B6, 0x05B6, 16), (0x05B7, 0x05B7, 17), (0x05B8, 0x05B8, 18),
  (0x05B9, 0x05BA, 19), (0x05BB, 0x05BB, 20), (0x05BC, 0x05BC, 21), (0x05BD, 0x05BD, 22),
  (0x05BF, 0x05BF, 23), (0x05C1, 0x05C1, 24), (0x05C2, 0x05C2, 25), (0x05C4, 0x05C4, 230),
  (0x05C5, 0x05C5, 220), (0x05C7, 0x05C7, 18), (0x0610, 0x0617, 230), (0x0618, 0x0618, 30),
  (0x0619, 0x0619, 31), (0x061A, 0x061A, 32), (0x064B, 0x064B, 27), (0x064C, 0x064C, 28),
  (0x064D, 0x064D, 29), (0x064E, 0x064E, 30), (0x064F, 0x064F, 31), (0x0650, 0x0650, 32),
  (0x0651, 0x0651, 33), (0x0652, 0x0652, 34), (0x0653, 0x0654, 230), (0x0655, 0x0656, 220),
  (0x0657, 0x065B, 230), (0x065C, 0x065C, 220), (0x065D, 0x065E, 230), (0x065F, 0x065F, 220),
  (0x0670, 0x0670, 35), (0x06D6, 0x06E2, 230), (0x06E3, 0x06E3, 220), (0x06E4, 0x06E4, 230),
  (0x06E7, 0x06E8, 230), (0x06EA, 0x06EA, 220), (0x06EB, 0x06EC, 230), (0x06ED, 0x06ED, 220),
  (0x0711, 0x0711, 36), (0x0730, 0x0730, 230), (0x0731, 0x0731, 220), (0x0732, 0x0733, 230),
  (0x0734, 0x0734, 220), (0x0735, 0x0736, 230), (0x0737, 0x0739, 220), (0x073A, 0x073A, 230),
  (0x073B, 0x073C, 220), (0x073D, 0x073D, 230), (0x073E, 0x073E, 220), (0x073F, 0x0741, 230),
  (0x0742, 0x0742, 220), (0x0743, 0x0743, 230), (0x0744, 0x0744, 220), (0x0745, 0x0745, 230),
  (0x0746, 0x0746, 220), (0x0747, 0x0747, 230), (0x0748, 0x0748, 220), (0x0749, 0x074A, 230),
  (0x07A6, 0x07B0, 0), (0x07EB, 0x07F1, 230), (0x07F2, 0x07F2, 220), (0x07F3, 0x07F3, 230),
  (0x07FD, 0x07FD, 220), (0x0816, 0x0819, 230), (0x081B, 0x0823, 230), (0x0825, 0x0827, 230),
  (0x0829, 0x082D, 230), (0x0859, 0x085B, 220), (0x0898, 0x0898, 230), (0x0899, 0x089B, 220),
  (0x089C, 0x089F, 230), (0x08CA, 0x08CE, 230), (0x08CF, 0x08D3, 220), (0x08D4, 0x08E1, 230),
  (0x08E3, 0x08E3, 220), (0x08E4, 0x08E5, 230), (0x08E6, 0x08E6, 220), (0x08E7, 0x08E8, 230),
  (0x08E9, 0x08E9, 220), (0x08EA, 0x08EC, 230), (0x08ED, 0x08EF, 220), (0x08F0, 0x08F0, 27),
  (0x08F1, 0x08F1, 28), (0x08F2, 0x08F2, 29), (0x08F3, 0x08F5, 230), (0x08F6, 0x08F6, 220),
  (0x08F7, 0x08F8, 230), (0x08F9, 0x08FA, 220), (0x08FB, 0x08FF, 230), (0x0900, 0x0902, 0),
  (0x093A, 0x093A, 0), (0x093C, 0x093C, 7), (0x0941, 0x0948, 0), (0x094D, 0x094D, 9),
  (0x0951, 0x0951, 230), (0x0952, 0x0952, 220), (0x0953, 0x0954, 230), (0x0955, 0x0957, 0),
  (0x0962, 0x0963, 0), (0x0981, 0x0981, 0), (0x09BC, 0x09BC, 7), (0x09C1, 0x09C4, 0),
  (0x09CD, 0x09CD, 9), (0x09E2, 0x09E3, 0), (0x09FE, 0x09FE, 230), (0x0A01, 0x0A02, 0),
  (0x0A3C, 0x0A3C, 7), (0x0A41, 0x0A4C, 0), (0x0A4D, 0x0A4D, 9), (0x0A51, 0x0A51, 0),
  (0x0A70, 0x0A71, 0), (0x0A75, 0x0A82, 0), (0x0ABC, 0x0ABC, 7), (0x0AC1, 0x0AC8, 0),
  (0x0ACD, 0x0ACD, 9), (0x0AE2, 0x0AE3, 0), (0x0AFA, 0x0B01, 0), (0x0B3C, 0x0B3C, 7),
  (0x0B3F, 0x0B3F, 0), (0x0B41, 0x0B44, 0), (0x0B4D, 0x0B4D, 9), (0x0B55, 0x0B56, 0),
  (0x0B62, 0x0B63, 0), (0x0B82, 0x0B82, 0), (0x0BC0, 0x0BC0, 0), (0x0BCD, 0x0BCD, 9),
  (0x0C00, 0x0C00, 0), (0x0C04, 0x0C04, 0), (0x0C3C, 0x0C3C, 7), (0x0C3E, 0x0C40, 0),
  (0x0C46, 0x0C4C, 0), (0x0C4D, 0x0C4D, 9), (0x0C55, 0x0C55, 84), (0x0C56, 0x0C56, 91),
  (0x0C62, 0x0C63, 0), (0x0C81, 0x0C81, 0), (0x0CBC, 0x0CBC, 7), (0x0CCC, 0x0CCC, 0),
  (0x0CCD, 0x0CCD, 9), (0x0CE2, 0x0CE3, 0), (0x0D00, 0x0D01, 0), (0x0D3B, 0x0D3C, 9),
  (0x0D41, 0x0D44, 0), (0x0D4D, 0x0D4D, 9), (0x0D62, 0x0D63, 0), (0x0D81, 0x0D81, 0),
  (0x0DCA, 0x0DCA, 9), (0x0DD2, 0x0DD6, 0), (0x0E31, 0x0E31, 0), (0x0E34, 0x0E37, 0),
  (0x0E38, 0x0E39, 103), (0x0E3A, 0x0E3A, 9), (0x0E47, 0x0E47, 0), (0x0E48, 0x0E4B, 107),
  (0x0E4C, 0x0E4E, 0), (0x0EB1, 0x0EB1, 0), (0x0EB4, 0x0EB7, 0), (0x0EB8, 0x0EB9, 118),
  (0x0EBA, 0x0EBA, 9), (0x0EBB, 0x0EBC, 0), (0x0EC8, 0x0ECB, 122), (0x0ECC, 0x0ECD, 0),
  (0x0F18, 0x0F19, 220), (0x0F35, 0x0F37, 220), (0x0F39, 0x0F39, 216), (0x0F71, 0x0F71, 129),
  (0x0F72, 0x0F72, 130), (0x0F74, 0x0F74, 132), (0x0F7A, 0x0F7D, 130), (0x0F7E, 0x0F7E, 0),
  (0x0F80, 0x0F80, 130), (0x0F82, 0x0F83, 230), (0x0F84, 0x0F84, 9), (0x0F86, 0x0F87, 230),
  (0x0F8D, 0x0FBC, 0), (0x0FC6, 0x0FC6, 220), (0x102D, 0x1030, 0), (0x1032, 0x1036, 0),
  (0x1037, 0x1037, 7), (0x1039, 0x103A, 9), (0x103D, 0x103E, 0), (0x1058, 0x1059, 0),
  (0x105E, 0x1060, 0), (0x1071, 0x1074, 0), (0x1082, 0x1082, 0), (0x1085, 0x1086, 0),
  (0x108D, 0x108D, 220), (0x109D, 0x109D, 0), (0x135D, 0x135F, 230), (0x1712, 0x1713, 0),
  (0x1714, 0x1714, 9), (0x1732, 0x1733, 0), (0x1752, 0x1753, 0), (0x1772, 0x1773, 0),
  (0x17B7, 0x17BD, 0), (0x17C6, 0x17C6, 0), (0x17C9, 0x17D1, 0), (0x17D2, 0x17D2, 9),
  (0x17D3, 0x17D3, 0), (0x17DD, 0x17DD, 230), (0x1885, 0x1886, 0), (0x18A9, 0x18A9, 228),
  (0x1920, 0x1922, 0), (0x1927, 0x1928, 0), (0x1932, 0x1932, 0), (0x1939, 0x1939, 222),
  (0x193A, 0x193A, 230), (0x193B, 0x193B, 220), (0x1A17, 0x1A17, 230), (0x1A18, 0x1A18, 220),
  (0x1A1B, 0x1A1B, 0), (0x1A56, 0x1A56, 0), (0x1A58, 0x1A5E, 0), (0x1A60, 0x1A60, 9),
  (0x1A62, 0x1A62, 0), (0x1A65, 0x1A6C, 0), (0x1A73, 0x1A74, 0), (0x1A75, 0x1A7C, 230),
  (0x1A7F, 0x1A7F, 220), (0x1AB0, 0x1AB4, 230), (0x1AB5, 0x1ABA, 220), (0x1ABB, 0x1ABC, 230),
  (0x1ABD, 0x1AC0, 220), (0x1AC1, 0x1AC2, 230), (0x1AC3, 0x1AC4, 220), (0x1AC5, 0x1AC9, 230),
  (0x1ACA, 0x1ACA, 220), (0x1ACB, 0x1ACE, 230), (0x1B00, 0x1B03, 0), (0x1B34, 0x1B34, 7),
  (0x1B36, 0x1B3A, 0), (0x1B3C, 0x1B3C, 0), (0x1B42, 0x1B42, 0), (0x1B6B, 0x1B6B, 230),
  (0x1B6C, 0x1B6C, 220), (0x1B6D, 0x1B73, 230), (0x1B80, 0x1B81, 0), (0x1BA2, 0x1BA5, 0),
  (0x1BA8, 0x1BA9, 0), (0x1BAB, 0x1BAB, 9), (0x1BAC, 0x1BAD, 0), (0x1BE6, 0x1BE6, 7),
  (0x1BE8, 0x1BE9, 0), (0x1BED, 0x1BED, 0), (0x1BEF, 0x1BF1, 0), (0x1C2C, 0x1C33, 0),
  (0x1C36, 0x1C36, 0), (0x1C37, 0x1C37, 7), (0x1CD0, 0x1CD2, 230), (0x1CD4, 0x1CD4, 1),
  (0x1CD5, 0x1CD9, 220), (0x1CDA, 0x1CDB, 230), (0x1CDC, 0x1CDF, 220), (0x1CE0, 0x1CE0, 230),
  (0x1CE2, 0x1CE8, 1), (0x1CED, 0x1CED, 220), (0x1CF4, 0x1CF4, 230), (0x1CF8, 0x1CF9, 230),
  (0x1DC0, 0x1DC1, 230), (0x1DC2, 0x1DC2, 220), (0x1DC3, 0x1DC9, 230), (0x1DCA, 0x1DCA, 220),
  (0x1DCB, 0x1DCC, 230), (0x1DCD, 0x1DCD, 234), (0x1DCE, 0x1DCE, 214), (0x1DCF, 0x1DCF, 220),
  (0x1DD0, 0x1DD0, 202), (0x1DD1, 0x1DF5, 230), (0x1DF6, 0x1DF6, 232), (0x1DF7, 0x1DF8, 228),
  (0x1DF9, 0x1DF9, 220), (0x1DFA, 0x1DFA, 218), (0x1DFB, 0x1DFB, 230), (0x1DFC, 0x1DFC, 233),
  (0x1DFD, 0x1DFD, 220), (0x1DFE, 0x1DFE, 230), (0x1DFF, 0x1DFF, 220), (0x2CEF, 0x2CF1, 230),
  (0x2D7F, 0x2D7F, 9), (0x2DE0, 0x2DFF, 230), (0x302A, 0x302A, 218), (0x302B, 0x302B, 228),
  (0x302C, 0x302C, 232), (0x302D, 0x302D, 222), (0x3099, 0x309A, 8), (0xA66F, 0xA67D, 230),
  (0xA69E, 0xA69F, 230), (0xA6F0, 0xA6F1, 230), (0xA802, 0xA802, 0), (0xA806, 0xA806, 9),
  (0xA80B, 0xA80B, 0), (0xA825, 0xA826, 0), (0xA82C, 0xA82C, 9), (0xA8C4, 0xA8C4, 9),
  (0xA8C5, 0xA8C5, 0), (0xA8E0, 0xA8F1, 230), (0xA8FF, 0xA8FF, 0), (0xA926, 0xA92A, 0),
  (0xA92B, 0xA92D, 220), (0xA947, 0xA951, 0), (0xA980, 0xA982, 0), (0xA9B3, 0xA9B3, 7),
  (0xA9B6, 0xA9B9, 0), (0xA9BC, 0xA9BD, 0), (0xA9E5, 0xA9E5, 0), (0xAA29, 0xAA2E, 0),
  (0xAA31, 0xAA32, 0), (0xAA35, 0xAA36, 0), (0xAA43, 0xAA43, 0), (0xAA4C, 0xAA4C, 0),
  (0xAA7C, 0xAA7C, 0), (0xAAB0, 0xAAB0, 230), (0xAAB2, 0xAAB3, 230), (0xAAB4, 0xAAB4, 220),
  (0xAAB7, 0xAAB8, 230), (0xAABE, 0xAABF, 230), (0xAAC1, 0xAAC1, 230), (0xAAEC, 0xAAED, 0),
  (0xAAF6, 0xAAF6, 9), (0xABE5, 0xABE5, 0), (0xABE8, 0xABE8, 0), (0xABED, 0xABED, 9),
  (0xFB1E, 0xFB1E, 26), (0xFE20, 0xFE26, 230), (0xFE27, 0xFE2D, 220), (0xFE2E, 0xFE2F, 230),
  (0x101FD, 0x101FD, 220), (0x102E0, 0x102E0, 220), (0x10376, 0x1037A, 230),
  (0x10A01, 0x10A0C, 0), (0x10A0D, 0x10A0D, 220), (0x10A0E, 0x10A0E, 0), (0x10A0F, 0x10A0F, 230),
  (0x10A38, 0x10A38, 230), (0x10A39, 0x10A39, 1), (0x10A3A, 0x10A3A, 220), (0x10A3F, 0x10A3F, 9),
  (0x10AE5, 0x10AE5, 230), (0x10AE6, 0x10AE6, 220), (0x10D24, 0x10D27, 230),
  (0x10EAB, 0x10EAC, 230), (0x10F46, 0x10F47, 220), (0x10F48, 0x10F4A, 230),
  (0x10F4B, 0x10F4B, 220), (0x10F4C, 0x10F4C, 230), (0x10F4D, 0x10F50, 220),
  (0x10F82, 0x10F82, 230), (0x10F83, 0x10F83, 220), (0x10F84, 0x10F84, 230),
  (0x10F85, 0x10F85, 220), (0x11001, 0x11001, 0), (0x11038, 0x11045, 0), (0x11046, 0x11046, 9),
  (0x11070, 0x11070, 9), (0x11073, 0x11074, 0), (0x1107F, 0x1107F, 9), (0x11080, 0x11081, 0),
  (0x110B3, 0x110B6, 0), (0x110B9, 0x110B9, 9), (0x110BA, 0x110BA, 7), (0x110C2, 0x110C2, 0),
  (0x11100, 0x11102, 230), (0x11127, 0x1112B, 0), (0x1112D, 0x11132, 0), (0x11133, 0x11134, 9),
  (0x11173, 0x11173, 7), (0x11180, 0x11181, 0), (0x111B6, 0x111BE, 0), (0x111C9, 0x111C9, 0),
  (0x111CA, 0x111CA, 7), (0x111CB, 0x111CC, 0), (0x111CF, 0x111CF, 0), (0x1122F, 0x11231, 0),
  (0x11234, 0x11234, 0), (0x11236, 0x11236, 7), (0x11237, 0x1123E, 0), (0x112DF, 0x112DF, 0),
  (0x112E3, 0x112E8, 0), (0x112E9, 0x112E9, 7), (0x112EA, 0x112EA, 9), (0x11300, 0x11301, 0),
  (0x1133B, 0x1133C, 7), (0x11340, 0x11340, 0), (0x11366, 0x11374, 230), (0x11438, 0x1143F, 0),
  (0x11442, 0x11442, 9), (0x11443, 0x11444, 0), (0x11446, 0x11446, 7), (0x1145E, 0x1145E, 230),
  (0x114B3, 0x114B8, 0), (0x114BA, 0x114BA, 0), (0x114BF, 0x114C0, 0), (0x114C2, 0x114C2, 9),
  (0x114C3, 0x114C3, 7), (0x115B2, 0x115B5, 0), (0x115BC, 0x115BD, 0), (0x115BF, 0x115BF, 9),
  (0x115C0, 0x115C0, 7), (0x115DC, 0x115DD, 0), (0x11633, 0x1163A, 0), (0x1163D, 0x1163D, 0),
  (0x1163F, 0x1163F, 9), (0x11640, 0x11640, 0), (0x116AB, 0x116AB, 0), (0x116AD, 0x116AD, 0),
  (0x116B0, 0x116B5, 0), (0x116B7, 0x116B7, 7), (0x1171D, 0x1171F, 0), (0x11722, 0x11725, 0),
  (0x11727, 0x1172A, 0), (0x1172B, 0x1172B, 9), (0x1182F, 0x11837, 0), (0x11839, 0x11839, 9),
  (0x1183A, 0x1183A, 7), (0x1193B, 0x1193C, 0), (0x1193E, 0x1193E, 9), (0x11943, 0x11943, 7),
  (0x119D4, 0x119DB, 0), (0x119E0, 0x119E0, 9), (0x11A01, 0x11A06, 0), (0x11A09, 0x11A0A, 0),
  (0x11A33, 0x11A33, 0), (0x11A34, 0x11A34, 9), (0x11A35, 0x11A38, 0), (0x11A3B, 0x11A3E, 0),
  (0x11A47, 0x11A47, 9), (0x11A51, 0x11A56, 0), (0x11A59, 0x11A5B, 0), (0x11A8A, 0x11A96, 0),
  (0x11A98, 0x11A98, 0), (0x11A99, 0x11A99, 9), (0x11C30, 0x11C3D, 0), (0x11C92, 0x11CA7, 0),
  (0x11CAA, 0x11CB0, 0), (0x11CB2, 0x11CB3, 0), (0x11CB5, 0x11CB6, 0), (0x11D31, 0x11D41, 0),
  (0x11D42, 0x11D42, 7), (0x11D43, 0x11D43, 0), (0x11D44, 0x11D45, 9), (0x11D47, 0x11D47, 0),
  (0x11D90, 0x11D91, 0), (0x11D95, 0x11D95, 0), (0x11D97, 0x11D97, 9), (0x11EF3, 0x11EF4, 0),
  (0x16AF0, 0x16AF4, 1), (0x16B30, 0x16B36, 230), (0x16F4F, 0x16F4F, 0), (0x16F8F, 0x16F92, 0),
  (0x16FE4, 0x16FE4, 0), (0x1BC9D, 0x1BC9D, 0), (0x1BC9E, 0x1BC9E, 1), (0x1CF00, 0x1DAAF, 0),
  (0x1E000, 0x1E02A, 230), (0x1E130, 0x1E136, 230), (0x1E2AE, 0x1E2AE, 230),
  (0x1E2EC, 0x1E2EF, 230), (0x1E8D0, 0x1E8D6, 220), (0x1E944, 0x1E949, 230),
  (0x1E94A, 0x1E94A, 7)]

/-- Marks that run from left to right: first, last and combining class. -/
private def strongMarks : List (Nat × Nat × Nat) := [
  (0x0903, 0x0903, 0), (0x093B, 0x093B, 0), (0x093E, 0x0940, 0), (0x0949, 0x094C, 0),
  (0x094E, 0x094F, 0), (0x0982, 0x0983, 0), (0x09BE, 0x09C0, 0), (0x09C7, 0x09CC, 0),
  (0x09D7, 0x09D7, 0), (0x0A03, 0x0A03, 0), (0x0A3E, 0x0A40, 0), (0x0A83, 0x0A83, 0),
  (0x0ABE, 0x0AC0, 0), (0x0AC9, 0x0ACC, 0), (0x0B02, 0x0B03, 0), (0x0B3E, 0x0B3E, 0),
  (0x0B40, 0x0B40, 0), (0x0B47, 0x0B4C, 0), (0x0B57, 0x0B57, 0), (0x0BBE, 0x0BBF, 0),
  (0x0BC1, 0x0BCC, 0), (0x0BD7, 0x0BD7, 0), (0x0C01, 0x0C03, 0), (0x0C41, 0x0C44, 0),
  (0x0C82, 0x0C83, 0), (0x0CBE, 0x0CCB, 0), (0x0CD5, 0x0CD6, 0), (0x0D02, 0x0D03, 0),
  (0x0D3E, 0x0D40, 0), (0x0D46, 0x0D4C, 0), (0x0D57, 0x0D57, 0), (0x0D82, 0x0D83, 0),
  (0x0DCF, 0x0DD1, 0), (0x0DD8, 0x0DDF, 0), (0x0DF2, 0x0DF3, 0), (0x0F3E, 0x0F3F, 0),
  (0x0F7F, 0x0F7F, 0), (0x102B, 0x102C, 0), (0x1031, 0x1031, 0), (0x1038, 0x1038, 0),
  (0x103B, 0x103C, 0), (0x1056, 0x1057, 0), (0x1062, 0x1064, 0), (0x1067, 0x106D, 0),
  (0x1083, 0x1084, 0), (0x1087, 0x108C, 0), (0x108F, 0x108F, 0), (0x109A, 0x109C, 0),
  (0x1715, 0x1715, 9), (0x1734, 0x1734, 9), (0x17B6, 0x17B6, 0), (0x17BE, 0x17C5, 0),
  (0x17C7, 0x17C8, 0), (0x1923, 0x1926, 0), (0x1929, 0x1931, 0), (0x1933, 0x1938, 0),
  (0x1A19, 0x1A1A, 0), (0x1A55, 0x1A55, 0), (0x1A57, 0x1A57, 0), (0x1A61, 0x1A61, 0),
  (0x1A63, 0x1A64, 0), (0x1A6D, 0x1A72, 0), (0x1B04, 0x1B04, 0), (0x1B35, 0x1B35, 0),
  (0x1B3B, 0x1B3B, 0), (0x1B3D, 0x1B41, 0), (0x1B43, 0x1B43, 0), (0x1B44, 0x1B44, 9),
  (0x1B82, 0x1B82, 0), (0x1BA1, 0x1BA1, 0), (0x1BA6, 0x1BA7, 0), (0x1BAA, 0x1BAA, 9),
  (0x1BE7, 0x1BE7, 0), (0x1BEA, 0x1BEC, 0), (0x1BEE, 0x1BEE, 0), (0x1BF2, 0x1BF3, 9),
  (0x1C24, 0x1C2B, 0), (0x1C34, 0x1C35, 0), (0x1CE1, 0x1CE1, 0), (0x1CF7, 0x1CF7, 0),
  (0xA823, 0xA824, 0), (0xA827, 0xA827, 0), (0xA880, 0xA881, 0), (0xA8B4, 0xA8C3, 0),
  (0xA952, 0xA952, 0), (0xA953, 0xA953, 9), (0xA983, 0xA983, 0), (0xA9B4, 0xA9B5, 0),
  (0xA9BA, 0xA9BB, 0), (0xA9BE, 0xA9BF, 0), (0xA9C0, 0xA9C0, 9), (0xAA2F, 0xAA30, 0),
  (0xAA33, 0xAA34, 0), (0xAA4D, 0xAA4D, 0), (0xAA7B, 0xAA7B, 0), (0xAA7D, 0xAA7D, 0),
  (0xAAEB, 0xAAEB, 0), (0xAAEE, 0xAAEF, 0), (0xAAF5, 0xAAF5, 0), (0xABE3, 0xABE4, 0),
  (0xABE6, 0xABE7, 0), (0xABE9, 0xABEC, 0), (0x11000, 0x11000, 0), (0x11002, 0x11002, 0),
  (0x11082, 0x11082, 0), (0x110B0, 0x110B2, 0), (0x110B7, 0x110B8, 0), (0x1112C, 0x1112C, 0),
  (0x11145, 0x11146, 0), (0x11182, 0x11182, 0), (0x111B3, 0x111B5, 0), (0x111BF, 0x111BF, 0),
  (0x111C0, 0x111C0, 9), (0x111CE, 0x111CE, 0), (0x1122C, 0x1122E, 0), (0x11232, 0x11233, 0),
  (0x11235, 0x11235, 9), (0x112E0, 0x112E2, 0), (0x11302, 0x11303, 0), (0x1133E, 0x1133F, 0),
  (0x11341, 0x1134C, 0), (0x1134D, 0x1134D, 9), (0x11357, 0x11357, 0), (0x11362, 0x11363, 0),
  (0x11435, 0x11437, 0), (0x11440, 0x11441, 0), (0x11445, 0x11445, 0), (0x114B0, 0x114B2, 0),
  (0x114B9, 0x114B9, 0), (0x114BB, 0x114BE, 0), (0x114C1, 0x114C1, 0), (0x115AF, 0x115B1, 0),
  (0x115B8, 0x115BB, 0), (0x115BE, 0x115BE, 0), (0x11630, 0x11632, 0), (0x1163B, 0x1163C, 0),
  (0x1163E, 0x1163E, 0), (0x116AC, 0x116AC, 0), (0x116AE, 0x116AF, 0), (0x116B6, 0x116B6, 9),
  (0x11720, 0x11721, 0), (0x11726, 0x11726, 0), (0x1182C, 0x1182E, 0), (0x11838, 0x11838, 0),
  (0x11930, 0x11938, 0), (0x1193D, 0x1193D, 9), (0x11940, 0x11940, 0), (0x11942, 0x11942, 0),
  (0x119D1, 0x119D3, 0), (0x119DC, 0x119DF, 0), (0x119E4, 0x119E4, 0), (0x11A07, 0x11A08, 0),
  (0x11A39, 0x11A39, 0), (0x11A57, 0x11A58, 0), (0x11A97, 0x11A97, 0), (0x11C2F, 0x11C2F, 0),
  (0x11C3E, 0x11C3E, 0), (0x11C3F, 0x11C3F, 9), (0x11CA9, 0x11CA9, 0), (0x11CB1, 0x11CB1, 0),
  (0x11CB4, 0x11CB4, 0), (0x11D8A, 0x11D8E, 0), (0x11D93, 0x11D94, 0), (0x11D96, 0x11D96, 0),
  (0x11EF5, 0x11EF6, 0), (0x16F51, 0x16F87, 0), (0x16FF0, 0x16FF1, 6)]

namespace CodePoint

/-- The combining class of a mark that takes the direction of its letter. -/
def weakMark? (c : CodePoint) : Option Nat := rangeValue? weakMarks c.toNat

/-- The combining class of a mark that runs from left to right. -/
def strongMark? (c : CodePoint) : Option Nat := rangeValue? strongMarks c.toNat

/-- Whether a code point is a mark that takes the direction of its letter. -/
def isWeakMark (c : CodePoint) : Bool := c.weakMark?.isSome

/-- **Marks.** -/
def isMark (c : CodePoint) : Bool := (c.weakMark?.or c.strongMark?).isSome

/-- **The combining class** of a code point. -/
def combiningClass (c : CodePoint) : Nat := (c.weakMark?.or c.strongMark?).getD 0

/-- The class of the marks that silence the vowel of an Indic letter. -/
def viramaClass : Nat := 9

end CodePoint

end GraphPath
