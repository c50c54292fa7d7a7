import LiveViewer.Text.Table

/-!
# Joining types

In cursive scripts such as Arabic a letter joins its neighbours on both sides (`dual`), only on
the side of the letter before it (`right`) or after it (`left`), or makes its neighbours join
(`joinCausing`); marks are `transparent` to joining, and other characters do not join. A zero
width non-joiner between letters is allowed only where it can break a joining. The table gives
the joining type from each code point on where it changes, in increasing order, from the
Unicode Character Database, version 17.0.
-/

namespace LiveViewer.Text

/-- How a character takes part in cursive joining. -/
inductive JoiningType where
  | joinCausing
  | dual
  | left
  | right
  | transparent
  deriving DecidableEq, Repr

/-- Entries 0 onwards of `joiningStarts`. -/
def joiningStartsPart0 : List (Nat × Option JoiningType) :=
  [(0x00AD, some .transparent), (0x00AE, none), (0x0300, some .transparent), (0x0370, none),
   (0x0483, some .transparent), (0x048A, none), (0x0591, some .transparent), (0x05BE, none),
   (0x05BF, some .transparent), (0x05C0, none), (0x05C1, some .transparent), (0x05C3, none),
   (0x05C4, some .transparent), (0x05C6, none), (0x05C7, some .transparent), (0x05C8, none),
   (0x0610, some .transparent), (0x061B, none), (0x061C, some .transparent), (0x061D, none),
   (0x0620, some .dual), (0x0621, none), (0x0622, some .right), (0x0626, some .dual),
   (0x0627, some .right), (0x0628, some .dual), (0x0629, some .right), (0x062A, some .dual),
   (0x062F, some .right), (0x0633, some .dual), (0x0640, some .joinCausing), (0x0641, some .dual),
   (0x0648, some .right), (0x0649, some .dual), (0x064B, some .transparent), (0x0660, none),
   (0x066E, some .dual), (0x0670, some .transparent), (0x0671, some .right), (0x0674, none),
   (0x0675, some .right), (0x0678, some .dual), (0x0688, some .right), (0x069A, some .dual),
   (0x06C0, some .right), (0x06C1, some .dual), (0x06C3, some .right), (0x06CC, some .dual),
   (0x06CD, some .right), (0x06CE, some .dual), (0x06CF, some .right), (0x06D0, some .dual),
   (0x06D2, some .right), (0x06D4, none), (0x06D5, some .right), (0x06D6, some .transparent),
   (0x06DD, none), (0x06DF, some .transparent), (0x06E5, none), (0x06E7, some .transparent),
   (0x06E9, none), (0x06EA, some .transparent), (0x06EE, some .right), (0x06F0, none),
   (0x06FA, some .dual), (0x06FD, none), (0x06FF, some .dual), (0x0700, none),
   (0x070F, some .transparent), (0x0710, some .right), (0x0711, some .transparent), (0x0712, some .dual),
   (0x0715, some .right), (0x071A, some .dual), (0x071E, some .right), (0x071F, some .dual),
   (0x0728, some .right), (0x0729, some .dual), (0x072A, some .right), (0x072B, some .dual),
   (0x072C, some .right), (0x072D, some .dual), (0x072F, some .right), (0x0730, some .transparent),
   (0x074B, none), (0x074D, some .right), (0x074E, some .dual), (0x0759, some .right),
   (0x075C, some .dual), (0x076B, some .right), (0x076D, some .dual), (0x0771, some .right),
   (0x0772, some .dual), (0x0773, some .right), (0x0775, some .dual), (0x0778, some .right),
   (0x077A, some .dual), (0x0780, none), (0x07A6, some .transparent), (0x07B1, none),
   (0x07CA, some .dual), (0x07EB, some .transparent), (0x07F4, none), (0x07FA, some .joinCausing),
   (0x07FB, none), (0x07FD, some .transparent), (0x07FE, none), (0x0816, some .transparent),
   (0x081A, none), (0x081B, some .transparent), (0x0824, none), (0x0825, some .transparent),
   (0x0828, none), (0x0829, some .transparent), (0x082E, none), (0x0840, some .right),
   (0x0841, some .dual), (0x0846, some .right), (0x0848, some .dual), (0x0849, some .right),
   (0x084A, some .dual), (0x0854, some .right), (0x0855, some .dual), (0x0856, some .right),
   (0x0859, some .transparent), (0x085C, none), (0x0860, some .dual), (0x0861, none),
   (0x0862, some .dual), (0x0866, none), (0x0867, some .right), (0x0868, some .dual),
   (0x0869, some .right), (0x086B, none), (0x0870, some .right), (0x0883, some .joinCausing),
   (0x0886, some .dual), (0x0887, none), (0x0889, some .dual), (0x088E, some .right),
   (0x088F, some .dual), (0x0890, none), (0x0897, some .transparent), (0x08A0, some .dual),
   (0x08AA, some .right), (0x08AD, none), (0x08AE, some .right), (0x08AF, some .dual),
   (0x08B1, some .right), (0x08B3, some .dual), (0x08B9, some .right), (0x08BA, some .dual),
   (0x08C9, none), (0x08CA, some .transparent), (0x08E2, none), (0x08E3, some .transparent),
   (0x0903, none), (0x093A, some .transparent), (0x093B, none), (0x093C, some .transparent),
   (0x093D, none), (0x0941, some .transparent), (0x0949, none), (0x094D, some .transparent),
   (0x094E, none), (0x0951, some .transparent), (0x0958, none), (0x0962, some .transparent),
   (0x0964, none), (0x0981, some .transparent), (0x0982, none), (0x09BC, some .transparent),
   (0x09BD, none), (0x09C1, some .transparent), (0x09C5, none), (0x09CD, some .transparent),
   (0x09CE, none), (0x09E2, some .transparent), (0x09E4, none), (0x09FE, some .transparent),
   (0x09FF, none), (0x0A01, some .transparent), (0x0A03, none), (0x0A3C, some .transparent),
   (0x0A3D, none), (0x0A41, some .transparent), (0x0A43, none), (0x0A47, some .transparent),
   (0x0A49, none), (0x0A4B, some .transparent), (0x0A4E, none), (0x0A51, some .transparent),
   (0x0A52, none), (0x0A70, some .transparent), (0x0A72, none), (0x0A75, some .transparent),
   (0x0A76, none), (0x0A81, some .transparent), (0x0A83, none), (0x0ABC, some .transparent),
   (0x0ABD, none), (0x0AC1, some .transparent), (0x0AC6, none), (0x0AC7, some .transparent),
   (0x0AC9, none), (0x0ACD, some .transparent), (0x0ACE, none), (0x0AE2, some .transparent),
   (0x0AE4, none), (0x0AFA, some .transparent), (0x0B00, none), (0x0B01, some .transparent),
   (0x0B02, none), (0x0B3C, some .transparent), (0x0B3D, none), (0x0B3F, some .transparent),
   (0x0B40, none), (0x0B41, some .transparent), (0x0B45, none), (0x0B4D, some .transparent),
   (0x0B4E, none), (0x0B55, some .transparent), (0x0B57, none), (0x0B62, some .transparent),
   (0x0B64, none), (0x0B82, some .transparent), (0x0B83, none), (0x0BC0, some .transparent),
   (0x0BC1, none), (0x0BCD, some .transparent), (0x0BCE, none), (0x0C00, some .transparent),
   (0x0C01, none), (0x0C04, some .transparent), (0x0C05, none), (0x0C3C, some .transparent),
   (0x0C3D, none), (0x0C3E, some .transparent), (0x0C41, none), (0x0C46, some .transparent),
   (0x0C49, none), (0x0C4A, some .transparent), (0x0C4E, none), (0x0C55, some .transparent),
   (0x0C57, none), (0x0C62, some .transparent), (0x0C64, none), (0x0C81, some .transparent),
   (0x0C82, none), (0x0CBC, some .transparent), (0x0CBD, none), (0x0CBF, some .transparent),
   (0x0CC0, none), (0x0CC6, some .transparent), (0x0CC7, none), (0x0CCC, some .transparent),
   (0x0CCE, none), (0x0CE2, some .transparent), (0x0CE4, none), (0x0D00, some .transparent),
   (0x0D02, none), (0x0D3B, some .transparent), (0x0D3D, none), (0x0D41, some .transparent),
   (0x0D45, none), (0x0D4D, some .transparent), (0x0D4E, none), (0x0D62, some .transparent),
   (0x0D64, none), (0x0D81, some .transparent), (0x0D82, none), (0x0DCA, some .transparent),
   (0x0DCB, none), (0x0DD2, some .transparent), (0x0DD5, none), (0x0DD6, some .transparent),
   (0x0DD7, none), (0x0E31, some .transparent), (0x0E32, none), (0x0E34, some .transparent),
   (0x0E3B, none), (0x0E47, some .transparent), (0x0E4F, none), (0x0EB1, some .transparent),
   (0x0EB2, none), (0x0EB4, some .transparent), (0x0EBD, none), (0x0EC8, some .transparent),
   (0x0ECF, none), (0x0F18, some .transparent), (0x0F1A, none), (0x0F35, some .transparent),
   (0x0F36, none), (0x0F37, some .transparent), (0x0F38, none), (0x0F39, some .transparent),
   (0x0F3A, none), (0x0F71, some .transparent), (0x0F7F, none), (0x0F80, some .transparent),
   (0x0F85, none), (0x0F86, some .transparent), (0x0F88, none), (0x0F8D, some .transparent),
   (0x0F98, none), (0x0F99, some .transparent), (0x0FBD, none), (0x0FC6, some .transparent),
   (0x0FC7, none), (0x102D, some .transparent), (0x1031, none), (0x1032, some .transparent),
   (0x1038, none), (0x1039, some .transparent), (0x103B, none), (0x103D, some .transparent),
   (0x103F, none), (0x1058, some .transparent), (0x105A, none), (0x105E, some .transparent),
   (0x1061, none), (0x1071, some .transparent), (0x1075, none), (0x1082, some .transparent),
   (0x1083, none), (0x1085, some .transparent), (0x1087, none), (0x108D, some .transparent),
   (0x108E, none), (0x109D, some .transparent), (0x109E, none), (0x135D, some .transparent),
   (0x1360, none), (0x1712, some .transparent), (0x1715, none), (0x1732, some .transparent),
   (0x1734, none), (0x1752, some .transparent), (0x1754, none), (0x1772, some .transparent),
   (0x1774, none), (0x17B4, some .transparent), (0x17B6, none), (0x17B7, some .transparent),
   (0x17BE, none), (0x17C6, some .transparent), (0x17C7, none), (0x17C9, some .transparent),
   (0x17D4, none), (0x17DD, some .transparent), (0x17DE, none), (0x1807, some .dual),
   (0x1808, none), (0x180A, some .joinCausing), (0x180B, some .transparent), (0x180E, none),
   (0x180F, some .transparent), (0x1810, none), (0x1820, some .dual), (0x1879, none),
   (0x1885, some .transparent), (0x1887, some .dual), (0x18A9, some .transparent), (0x18AA, some .dual),
   (0x18AB, none), (0x1920, some .transparent), (0x1923, none), (0x1927, some .transparent),
   (0x1929, none), (0x1932, some .transparent), (0x1933, none), (0x1939, some .transparent),
   (0x193C, none), (0x1A17, some .transparent), (0x1A19, none), (0x1A1B, some .transparent),
   (0x1A1C, none), (0x1A56, some .transparent), (0x1A57, none), (0x1A58, some .transparent),
   (0x1A5F, none), (0x1A60, some .transparent), (0x1A61, none), (0x1A62, some .transparent),
   (0x1A63, none), (0x1A65, some .transparent), (0x1A6D, none), (0x1A73, some .transparent),
   (0x1A7D, none), (0x1A7F, some .transparent), (0x1A80, none), (0x1AB0, some .transparent),
   (0x1ADE, none), (0x1AE0, some .transparent), (0x1AEC, none), (0x1B00, some .transparent),
   (0x1B04, none), (0x1B34, some .transparent), (0x1B35, none), (0x1B36, some .transparent),
   (0x1B3B, none), (0x1B3C, some .transparent), (0x1B3D, none), (0x1B42, some .transparent),
   (0x1B43, none), (0x1B6B, some .transparent), (0x1B74, none), (0x1B80, some .transparent),
   (0x1B82, none), (0x1BA2, some .transparent), (0x1BA6, none), (0x1BA8, some .transparent),
   (0x1BAA, none), (0x1BAB, some .transparent), (0x1BAE, none), (0x1BE6, some .transparent),
   (0x1BE7, none), (0x1BE8, some .transparent), (0x1BEA, none), (0x1BED, some .transparent),
   (0x1BEE, none), (0x1BEF, some .transparent), (0x1BF2, none), (0x1C2C, some .transparent),
   (0x1C34, none), (0x1C36, some .transparent), (0x1C38, none), (0x1CD0, some .transparent),
   (0x1CD3, none), (0x1CD4, some .transparent), (0x1CE1, none), (0x1CE2, some .transparent),
   (0x1CE9, none), (0x1CED, some .transparent), (0x1CEE, none), (0x1CF4, some .transparent),
   (0x1CF5, none), (0x1CF8, some .transparent), (0x1CFA, none), (0x1DC0, some .transparent),
   (0x1E00, none), (0x200B, some .transparent), (0x200C, none), (0x200D, some .joinCausing),
   (0x200E, some .transparent), (0x2010, none), (0x202A, some .transparent), (0x202F, none),
   (0x2060, some .transparent), (0x2065, none), (0x206A, some .transparent), (0x2070, none),
   (0x20D0, some .transparent), (0x20F1, none), (0x2CEF, some .transparent), (0x2CF2, none),
   (0x2D7F, some .transparent), (0x2D80, none), (0x2DE0, some .transparent), (0x2E00, none),
   (0x302A, some .transparent), (0x302E, none), (0x3099, some .transparent), (0x309B, none),
   (0xA66F, some .transparent), (0xA673, none), (0xA674, some .transparent), (0xA67E, none),
   (0xA69E, some .transparent), (0xA6A0, none), (0xA6F0, some .transparent), (0xA6F2, none),
   (0xA802, some .transparent), (0xA803, none), (0xA806, some .transparent), (0xA807, none),
   (0xA80B, some .transparent), (0xA80C, none), (0xA825, some .transparent), (0xA827, none),
   (0xA82C, some .transparent), (0xA82D, none), (0xA840, some .dual), (0xA872, some .left),
   (0xA873, none), (0xA8C4, some .transparent), (0xA8C6, none), (0xA8E0, some .transparent),
   (0xA8F2, none), (0xA8FF, some .transparent), (0xA900, none), (0xA926, some .transparent),
   (0xA92E, none), (0xA947, some .transparent), (0xA952, none), (0xA980, some .transparent),
   (0xA983, none), (0xA9B3, some .transparent), (0xA9B4, none), (0xA9B6, some .transparent),
   (0xA9BA, none), (0xA9BC, some .transparent), (0xA9BE, none), (0xA9E5, some .transparent),
   (0xA9E6, none), (0xAA29, some .transparent), (0xAA2F, none), (0xAA31, some .transparent),
   (0xAA33, none), (0xAA35, some .transparent), (0xAA37, none), (0xAA43, some .transparent),
   (0xAA44, none), (0xAA4C, some .transparent), (0xAA4D, none), (0xAA7C, some .transparent),
   (0xAA7D, none), (0xAAB0, some .transparent), (0xAAB1, none), (0xAAB2, some .transparent),
   (0xAAB5, none), (0xAAB7, some .transparent), (0xAAB9, none), (0xAABE, some .transparent),
   (0xAAC0, none), (0xAAC1, some .transparent), (0xAAC2, none), (0xAAEC, some .transparent),
   (0xAAEE, none), (0xAAF6, some .transparent), (0xAAF7, none), (0xABE5, some .transparent),
   (0xABE6, none), (0xABE8, some .transparent), (0xABE9, none), (0xABED, some .transparent),
   (0xABEE, none), (0xFB1E, some .transparent), (0xFB1F, none), (0xFE00, some .transparent),
   (0xFE10, none), (0xFE20, some .transparent), (0xFE30, none), (0xFEFF, some .transparent),
   (0xFF00, none), (0xFFF9, some .transparent), (0xFFFC, none), (0x101FD, some .transparent),
   (0x101FE, none), (0x102E0, some .transparent), (0x102E1, none), (0x10376, some .transparent),
   (0x1037B, none), (0x10A01, some .transparent), (0x10A04, none), (0x10A05, some .transparent),
   (0x10A07, none), (0x10A0C, some .transparent), (0x10A10, none), (0x10A38, some .transparent),
   (0x10A3B, none), (0x10A3F, some .transparent), (0x10A40, none), (0x10AC0, some .dual),
   (0x10AC5, some .right), (0x10AC6, none), (0x10AC7, some .right), (0x10AC8, none),
   (0x10AC9, some .right), (0x10ACB, none), (0x10ACD, some .left), (0x10ACE, some .right),
   (0x10AD3, some .dual), (0x10AD7, some .left), (0x10AD8, some .dual), (0x10ADD, some .right),
   (0x10ADE, some .dual), (0x10AE1, some .right), (0x10AE2, none), (0x10AE4, some .right),
   (0x10AE5, some .transparent), (0x10AE7, none), (0x10AEB, some .dual), (0x10AEF, some .right),
   (0x10AF0, none), (0x10B80, some .dual), (0x10B81, some .right), (0x10B82, some .dual),
   (0x10B83, some .right), (0x10B86, some .dual), (0x10B89, some .right), (0x10B8A, some .dual),
   (0x10B8C, some .right), (0x10B8D, some .dual), (0x10B8E, some .right), (0x10B90, some .dual),
   (0x10B91, some .right), (0x10B92, none), (0x10BA9, some .right), (0x10BAD, some .dual)]

/-- Entries 600 onwards of `joiningStarts`. -/
def joiningStartsPart1 : List (Nat × Option JoiningType) :=
  [(0x10BAF, none), (0x10D00, some .left), (0x10D01, some .dual), (0x10D22, some .right),
   (0x10D23, some .dual), (0x10D24, some .transparent), (0x10D28, none), (0x10D69, some .transparent),
   (0x10D6E, none), (0x10EAB, some .transparent), (0x10EAD, none), (0x10EC2, some .right),
   (0x10EC3, some .dual), (0x10EC5, none), (0x10EC6, some .dual), (0x10EC8, none),
   (0x10EFA, some .transparent), (0x10F00, none), (0x10F30, some .dual), (0x10F33, some .right),
   (0x10F34, some .dual), (0x10F45, none), (0x10F46, some .transparent), (0x10F51, some .dual),
   (0x10F54, some .right), (0x10F55, none), (0x10F70, some .dual), (0x10F74, some .right),
   (0x10F76, some .dual), (0x10F82, some .transparent), (0x10F86, none), (0x10FB0, some .dual),
   (0x10FB1, none), (0x10FB2, some .dual), (0x10FB4, some .right), (0x10FB7, none),
   (0x10FB8, some .dual), (0x10FB9, some .right), (0x10FBB, some .dual), (0x10FBD, some .right),
   (0x10FBE, some .dual), (0x10FC0, none), (0x10FC1, some .dual), (0x10FC2, some .right),
   (0x10FC4, some .dual), (0x10FC5, none), (0x10FC9, some .right), (0x10FCA, some .dual),
   (0x10FCB, some .left), (0x10FCC, none), (0x11001, some .transparent), (0x11002, none),
   (0x11038, some .transparent), (0x11047, none), (0x11070, some .transparent), (0x11071, none),
   (0x11073, some .transparent), (0x11075, none), (0x1107F, some .transparent), (0x11082, none),
   (0x110B3, some .transparent), (0x110B7, none), (0x110B9, some .transparent), (0x110BB, none),
   (0x110C2, some .transparent), (0x110C3, none), (0x11100, some .transparent), (0x11103, none),
   (0x11127, some .transparent), (0x1112C, none), (0x1112D, some .transparent), (0x11135, none),
   (0x11173, some .transparent), (0x11174, none), (0x11180, some .transparent), (0x11182, none),
   (0x111B6, some .transparent), (0x111BF, none), (0x111C9, some .transparent), (0x111CD, none),
   (0x111CF, some .transparent), (0x111D0, none), (0x1122F, some .transparent), (0x11232, none),
   (0x11234, some .transparent), (0x11235, none), (0x11236, some .transparent), (0x11238, none),
   (0x1123E, some .transparent), (0x1123F, none), (0x11241, some .transparent), (0x11242, none),
   (0x112DF, some .transparent), (0x112E0, none), (0x112E3, some .transparent), (0x112EB, none),
   (0x11300, some .transparent), (0x11302, none), (0x1133B, some .transparent), (0x1133D, none),
   (0x11340, some .transparent), (0x11341, none), (0x11366, some .transparent), (0x1136D, none),
   (0x11370, some .transparent), (0x11375, none), (0x113BB, some .transparent), (0x113C1, none),
   (0x113CE, some .transparent), (0x113CF, none), (0x113D0, some .transparent), (0x113D1, none),
   (0x113D2, some .transparent), (0x113D3, none), (0x113E1, some .transparent), (0x113E3, none),
   (0x11438, some .transparent), (0x11440, none), (0x11442, some .transparent), (0x11445, none),
   (0x11446, some .transparent), (0x11447, none), (0x1145E, some .transparent), (0x1145F, none),
   (0x114B3, some .transparent), (0x114B9, none), (0x114BA, some .transparent), (0x114BB, none),
   (0x114BF, some .transparent), (0x114C1, none), (0x114C2, some .transparent), (0x114C4, none),
   (0x115B2, some .transparent), (0x115B6, none), (0x115BC, some .transparent), (0x115BE, none),
   (0x115BF, some .transparent), (0x115C1, none), (0x115DC, some .transparent), (0x115DE, none),
   (0x11633, some .transparent), (0x1163B, none), (0x1163D, some .transparent), (0x1163E, none),
   (0x1163F, some .transparent), (0x11641, none), (0x116AB, some .transparent), (0x116AC, none),
   (0x116AD, some .transparent), (0x116AE, none), (0x116B0, some .transparent), (0x116B6, none),
   (0x116B7, some .transparent), (0x116B8, none), (0x1171D, some .transparent), (0x1171E, none),
   (0x1171F, some .transparent), (0x11720, none), (0x11722, some .transparent), (0x11726, none),
   (0x11727, some .transparent), (0x1172C, none), (0x1182F, some .transparent), (0x11838, none),
   (0x11839, some .transparent), (0x1183B, none), (0x1193B, some .transparent), (0x1193D, none),
   (0x1193E, some .transparent), (0x1193F, none), (0x11943, some .transparent), (0x11944, none),
   (0x119D4, some .transparent), (0x119D8, none), (0x119DA, some .transparent), (0x119DC, none),
   (0x119E0, some .transparent), (0x119E1, none), (0x11A01, some .transparent), (0x11A0B, none),
   (0x11A33, some .transparent), (0x11A39, none), (0x11A3B, some .transparent), (0x11A3F, none),
   (0x11A47, some .transparent), (0x11A48, none), (0x11A51, some .transparent), (0x11A57, none),
   (0x11A59, some .transparent), (0x11A5C, none), (0x11A8A, some .transparent), (0x11A97, none),
   (0x11A98, some .transparent), (0x11A9A, none), (0x11B60, some .transparent), (0x11B61, none),
   (0x11B62, some .transparent), (0x11B65, none), (0x11B66, some .transparent), (0x11B67, none),
   (0x11C30, some .transparent), (0x11C37, none), (0x11C38, some .transparent), (0x11C3E, none),
   (0x11C3F, some .transparent), (0x11C40, none), (0x11C92, some .transparent), (0x11CA8, none),
   (0x11CAA, some .transparent), (0x11CB1, none), (0x11CB2, some .transparent), (0x11CB4, none),
   (0x11CB5, some .transparent), (0x11CB7, none), (0x11D31, some .transparent), (0x11D37, none),
   (0x11D3A, some .transparent), (0x11D3B, none), (0x11D3C, some .transparent), (0x11D3E, none),
   (0x11D3F, some .transparent), (0x11D46, none), (0x11D47, some .transparent), (0x11D48, none),
   (0x11D90, some .transparent), (0x11D92, none), (0x11D95, some .transparent), (0x11D96, none),
   (0x11D97, some .transparent), (0x11D98, none), (0x11EF3, some .transparent), (0x11EF5, none),
   (0x11F00, some .transparent), (0x11F02, none), (0x11F36, some .transparent), (0x11F3B, none),
   (0x11F40, some .transparent), (0x11F41, none), (0x11F42, some .transparent), (0x11F43, none),
   (0x11F5A, some .transparent), (0x11F5B, none), (0x13430, some .transparent), (0x13441, none),
   (0x13447, some .transparent), (0x13456, none), (0x1611E, some .transparent), (0x1612A, none),
   (0x1612D, some .transparent), (0x16130, none), (0x16AF0, some .transparent), (0x16AF5, none),
   (0x16B30, some .transparent), (0x16B37, none), (0x16F4F, some .transparent), (0x16F50, none),
   (0x16F8F, some .transparent), (0x16F93, none), (0x16FE4, some .transparent), (0x16FE5, none),
   (0x1BC9D, some .transparent), (0x1BC9F, none), (0x1BCA0, some .transparent), (0x1BCA4, none),
   (0x1CF00, some .transparent), (0x1CF2E, none), (0x1CF30, some .transparent), (0x1CF47, none),
   (0x1D167, some .transparent), (0x1D16A, none), (0x1D173, some .transparent), (0x1D183, none),
   (0x1D185, some .transparent), (0x1D18C, none), (0x1D1AA, some .transparent), (0x1D1AE, none),
   (0x1D242, some .transparent), (0x1D245, none), (0x1DA00, some .transparent), (0x1DA37, none),
   (0x1DA3B, some .transparent), (0x1DA6D, none), (0x1DA75, some .transparent), (0x1DA76, none),
   (0x1DA84, some .transparent), (0x1DA85, none), (0x1DA9B, some .transparent), (0x1DAA0, none),
   (0x1DAA1, some .transparent), (0x1DAB0, none), (0x1E000, some .transparent), (0x1E007, none),
   (0x1E008, some .transparent), (0x1E019, none), (0x1E01B, some .transparent), (0x1E022, none),
   (0x1E023, some .transparent), (0x1E025, none), (0x1E026, some .transparent), (0x1E02B, none),
   (0x1E08F, some .transparent), (0x1E090, none), (0x1E130, some .transparent), (0x1E137, none),
   (0x1E2AE, some .transparent), (0x1E2AF, none), (0x1E2EC, some .transparent), (0x1E2F0, none),
   (0x1E4EC, some .transparent), (0x1E4F0, none), (0x1E5EE, some .transparent), (0x1E5F0, none),
   (0x1E6E3, some .transparent), (0x1E6E4, none), (0x1E6E6, some .transparent), (0x1E6E7, none),
   (0x1E6EE, some .transparent), (0x1E6F0, none), (0x1E6F5, some .transparent), (0x1E6F6, none),
   (0x1E8D0, some .transparent), (0x1E8D7, none), (0x1E900, some .dual), (0x1E944, some .transparent),
   (0x1E94C, none), (0xE0001, some .transparent), (0xE0002, none), (0xE0020, some .transparent),
   (0xE0080, none), (0xE0100, some .transparent), (0xE01F0, none)]

/-- The joining type from each code point on where it changes; `none` for characters that
do not join. -/
def joiningStarts : Array (Nat × Option JoiningType) :=
  (joiningStartsPart0 ++
    joiningStartsPart1).toArray

/-- The joining type of `c`, or `none` when it does not join. -/
def joiningType (c : Char) : Option JoiningType :=
  (lastAtMost joiningStarts c.toNat).getD none

end LiveViewer.Text
