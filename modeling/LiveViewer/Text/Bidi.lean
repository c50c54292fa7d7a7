import LiveViewer.Text.Table

/-!
# Bidirectional classes

Each character has a bidirectional class, which says how it behaves in text that mixes left-to-
right and right-to-left writing: a strong letter of either direction, a digit, a separator or
terminator of numbers, a mark, a neutral, or one of the explicit formatting controls. The
table gives the class from each code point on where it changes, in increasing order, as the
Unicode Character Database, version 15.0, assigns it, unassigned code points included.
-/

namespace LiveViewer.Text

/-- The bidirectional class of a character. -/
inductive BidiClass where
  /-- `L` -/
  | leftToRight
  /-- `R` -/
  | rightToLeft
  /-- `AL` -/
  | arabicLetter
  /-- `EN` -/
  | europeanNumber
  /-- `ES` -/
  | europeanSeparator
  /-- `ET` -/
  | europeanTerminator
  /-- `AN` -/
  | arabicNumber
  /-- `CS` -/
  | commonSeparator
  /-- `NSM` -/
  | nonspacingMark
  /-- `BN` -/
  | boundaryNeutral
  /-- `B` -/
  | paragraphSeparator
  /-- `S` -/
  | segmentSeparator
  /-- `WS` -/
  | whiteSpace
  /-- `ON` -/
  | otherNeutral
  /-- `LRE` -/
  | leftToRightEmbedding
  /-- `LRO` -/
  | leftToRightOverride
  /-- `RLE` -/
  | rightToLeftEmbedding
  /-- `RLO` -/
  | rightToLeftOverride
  /-- `PDF` -/
  | popDirectionalFormat
  /-- `LRI` -/
  | leftToRightIsolate
  /-- `RLI` -/
  | rightToLeftIsolate
  /-- `FSI` -/
  | firstStrongIsolate
  /-- `PDI` -/
  | popDirectionalIsolate
  deriving DecidableEq, Repr

/-- Entries 0 onwards of `bidiStarts`. -/
def bidiStartsPart0 : List (Nat × BidiClass) :=
  [(0x0000, .boundaryNeutral), (0x0009, .segmentSeparator), (0x000A, .paragraphSeparator), (0x000B, .segmentSeparator),
   (0x000C, .whiteSpace), (0x000D, .paragraphSeparator), (0x000E, .boundaryNeutral), (0x001C, .paragraphSeparator),
   (0x001F, .segmentSeparator), (0x0020, .whiteSpace), (0x0021, .otherNeutral), (0x0023, .europeanTerminator),
   (0x0026, .otherNeutral), (0x002B, .europeanSeparator), (0x002C, .commonSeparator), (0x002D, .europeanSeparator),
   (0x002E, .commonSeparator), (0x0030, .europeanNumber), (0x003A, .commonSeparator), (0x003B, .otherNeutral),
   (0x0041, .leftToRight), (0x005B, .otherNeutral), (0x0061, .leftToRight), (0x007B, .otherNeutral),
   (0x007F, .boundaryNeutral), (0x0085, .paragraphSeparator), (0x0086, .boundaryNeutral), (0x00A0, .commonSeparator),
   (0x00A1, .otherNeutral), (0x00A2, .europeanTerminator), (0x00A6, .otherNeutral), (0x00AA, .leftToRight),
   (0x00AB, .otherNeutral), (0x00AD, .boundaryNeutral), (0x00AE, .otherNeutral), (0x00B0, .europeanTerminator),
   (0x00B2, .europeanNumber), (0x00B4, .otherNeutral), (0x00B5, .leftToRight), (0x00B6, .otherNeutral),
   (0x00B9, .europeanNumber), (0x00BA, .leftToRight), (0x00BB, .otherNeutral), (0x00C0, .leftToRight),
   (0x00D7, .otherNeutral), (0x00D8, .leftToRight), (0x00F7, .otherNeutral), (0x00F8, .leftToRight),
   (0x02B9, .otherNeutral), (0x02BB, .leftToRight), (0x02C2, .otherNeutral), (0x02D0, .leftToRight),
   (0x02D2, .otherNeutral), (0x02E0, .leftToRight), (0x02E5, .otherNeutral), (0x02EE, .leftToRight),
   (0x02EF, .otherNeutral), (0x0300, .nonspacingMark), (0x0370, .leftToRight), (0x0374, .otherNeutral),
   (0x0376, .leftToRight), (0x037E, .otherNeutral), (0x037F, .leftToRight), (0x0384, .otherNeutral),
   (0x0386, .leftToRight), (0x0387, .otherNeutral), (0x0388, .leftToRight), (0x03F6, .otherNeutral),
   (0x03F7, .leftToRight), (0x0483, .nonspacingMark), (0x048A, .leftToRight), (0x058A, .otherNeutral),
   (0x058B, .leftToRight), (0x058D, .otherNeutral), (0x058F, .europeanTerminator), (0x0590, .rightToLeft),
   (0x0591, .nonspacingMark), (0x05BE, .rightToLeft), (0x05BF, .nonspacingMark), (0x05C0, .rightToLeft),
   (0x05C1, .nonspacingMark), (0x05C3, .rightToLeft), (0x05C4, .nonspacingMark), (0x05C6, .rightToLeft),
   (0x05C7, .nonspacingMark), (0x05C8, .rightToLeft), (0x0600, .arabicNumber), (0x0606, .otherNeutral),
   (0x0608, .arabicLetter), (0x0609, .europeanTerminator), (0x060B, .arabicLetter), (0x060C, .commonSeparator),
   (0x060D, .arabicLetter), (0x060E, .otherNeutral), (0x0610, .nonspacingMark), (0x061B, .arabicLetter),
   (0x064B, .nonspacingMark), (0x0660, .arabicNumber), (0x066A, .europeanTerminator), (0x066B, .arabicNumber),
   (0x066D, .arabicLetter), (0x0670, .nonspacingMark), (0x0671, .arabicLetter), (0x06D6, .nonspacingMark),
   (0x06DD, .arabicNumber), (0x06DE, .otherNeutral), (0x06DF, .nonspacingMark), (0x06E5, .arabicLetter),
   (0x06E7, .nonspacingMark), (0x06E9, .otherNeutral), (0x06EA, .nonspacingMark), (0x06EE, .arabicLetter),
   (0x06F0, .europeanNumber), (0x06FA, .arabicLetter), (0x0711, .nonspacingMark), (0x0712, .arabicLetter),
   (0x0730, .nonspacingMark), (0x074B, .arabicLetter), (0x07A6, .nonspacingMark), (0x07B1, .arabicLetter),
   (0x07C0, .rightToLeft), (0x07EB, .nonspacingMark), (0x07F4, .rightToLeft), (0x07F6, .otherNeutral),
   (0x07FA, .rightToLeft), (0x07FD, .nonspacingMark), (0x07FE, .rightToLeft), (0x0816, .nonspacingMark),
   (0x081A, .rightToLeft), (0x081B, .nonspacingMark), (0x0824, .rightToLeft), (0x0825, .nonspacingMark),
   (0x0828, .rightToLeft), (0x0829, .nonspacingMark), (0x082E, .rightToLeft), (0x0859, .nonspacingMark),
   (0x085C, .rightToLeft), (0x0860, .arabicLetter), (0x0890, .arabicNumber), (0x0892, .arabicLetter),
   (0x0898, .nonspacingMark), (0x08A0, .arabicLetter), (0x08CA, .nonspacingMark), (0x08E2, .arabicNumber),
   (0x08E3, .nonspacingMark), (0x0903, .leftToRight), (0x093A, .nonspacingMark), (0x093B, .leftToRight),
   (0x093C, .nonspacingMark), (0x093D, .leftToRight), (0x0941, .nonspacingMark), (0x0949, .leftToRight),
   (0x094D, .nonspacingMark), (0x094E, .leftToRight), (0x0951, .nonspacingMark), (0x0958, .leftToRight),
   (0x0962, .nonspacingMark), (0x0964, .leftToRight), (0x0981, .nonspacingMark), (0x0982, .leftToRight),
   (0x09BC, .nonspacingMark), (0x09BD, .leftToRight), (0x09C1, .nonspacingMark), (0x09C5, .leftToRight),
   (0x09CD, .nonspacingMark), (0x09CE, .leftToRight), (0x09E2, .nonspacingMark), (0x09E4, .leftToRight),
   (0x09F2, .europeanTerminator), (0x09F4, .leftToRight), (0x09FB, .europeanTerminator), (0x09FC, .leftToRight),
   (0x09FE, .nonspacingMark), (0x09FF, .leftToRight), (0x0A01, .nonspacingMark), (0x0A03, .leftToRight),
   (0x0A3C, .nonspacingMark), (0x0A3D, .leftToRight), (0x0A41, .nonspacingMark), (0x0A43, .leftToRight),
   (0x0A47, .nonspacingMark), (0x0A49, .leftToRight), (0x0A4B, .nonspacingMark), (0x0A4E, .leftToRight),
   (0x0A51, .nonspacingMark), (0x0A52, .leftToRight), (0x0A70, .nonspacingMark), (0x0A72, .leftToRight),
   (0x0A75, .nonspacingMark), (0x0A76, .leftToRight), (0x0A81, .nonspacingMark), (0x0A83, .leftToRight),
   (0x0ABC, .nonspacingMark), (0x0ABD, .leftToRight), (0x0AC1, .nonspacingMark), (0x0AC6, .leftToRight),
   (0x0AC7, .nonspacingMark), (0x0AC9, .leftToRight), (0x0ACD, .nonspacingMark), (0x0ACE, .leftToRight),
   (0x0AE2, .nonspacingMark), (0x0AE4, .leftToRight), (0x0AF1, .europeanTerminator), (0x0AF2, .leftToRight),
   (0x0AFA, .nonspacingMark), (0x0B00, .leftToRight), (0x0B01, .nonspacingMark), (0x0B02, .leftToRight),
   (0x0B3C, .nonspacingMark), (0x0B3D, .leftToRight), (0x0B3F, .nonspacingMark), (0x0B40, .leftToRight),
   (0x0B41, .nonspacingMark), (0x0B45, .leftToRight), (0x0B4D, .nonspacingMark), (0x0B4E, .leftToRight),
   (0x0B55, .nonspacingMark), (0x0B57, .leftToRight), (0x0B62, .nonspacingMark), (0x0B64, .leftToRight),
   (0x0B82, .nonspacingMark), (0x0B83, .leftToRight), (0x0BC0, .nonspacingMark), (0x0BC1, .leftToRight),
   (0x0BCD, .nonspacingMark), (0x0BCE, .leftToRight), (0x0BF3, .otherNeutral), (0x0BF9, .europeanTerminator),
   (0x0BFA, .otherNeutral), (0x0BFB, .leftToRight), (0x0C00, .nonspacingMark), (0x0C01, .leftToRight),
   (0x0C04, .nonspacingMark), (0x0C05, .leftToRight), (0x0C3C, .nonspacingMark), (0x0C3D, .leftToRight),
   (0x0C3E, .nonspacingMark), (0x0C41, .leftToRight), (0x0C46, .nonspacingMark), (0x0C49, .leftToRight),
   (0x0C4A, .nonspacingMark), (0x0C4E, .leftToRight), (0x0C55, .nonspacingMark), (0x0C57, .leftToRight),
   (0x0C62, .nonspacingMark), (0x0C64, .leftToRight), (0x0C78, .otherNeutral), (0x0C7F, .leftToRight),
   (0x0C81, .nonspacingMark), (0x0C82, .leftToRight), (0x0CBC, .nonspacingMark), (0x0CBD, .leftToRight),
   (0x0CCC, .nonspacingMark), (0x0CCE, .leftToRight), (0x0CE2, .nonspacingMark), (0x0CE4, .leftToRight),
   (0x0D00, .nonspacingMark), (0x0D02, .leftToRight), (0x0D3B, .nonspacingMark), (0x0D3D, .leftToRight),
   (0x0D41, .nonspacingMark), (0x0D45, .leftToRight), (0x0D4D, .nonspacingMark), (0x0D4E, .leftToRight),
   (0x0D62, .nonspacingMark), (0x0D64, .leftToRight), (0x0D81, .nonspacingMark), (0x0D82, .leftToRight),
   (0x0DCA, .nonspacingMark), (0x0DCB, .leftToRight), (0x0DD2, .nonspacingMark), (0x0DD5, .leftToRight),
   (0x0DD6, .nonspacingMark), (0x0DD7, .leftToRight), (0x0E31, .nonspacingMark), (0x0E32, .leftToRight),
   (0x0E34, .nonspacingMark), (0x0E3B, .leftToRight), (0x0E3F, .europeanTerminator), (0x0E40, .leftToRight),
   (0x0E47, .nonspacingMark), (0x0E4F, .leftToRight), (0x0EB1, .nonspacingMark), (0x0EB2, .leftToRight),
   (0x0EB4, .nonspacingMark), (0x0EBD, .leftToRight), (0x0EC8, .nonspacingMark), (0x0ECF, .leftToRight),
   (0x0F18, .nonspacingMark), (0x0F1A, .leftToRight), (0x0F35, .nonspacingMark), (0x0F36, .leftToRight),
   (0x0F37, .nonspacingMark), (0x0F38, .leftToRight), (0x0F39, .nonspacingMark), (0x0F3A, .otherNeutral),
   (0x0F3E, .leftToRight), (0x0F71, .nonspacingMark), (0x0F7F, .leftToRight), (0x0F80, .nonspacingMark),
   (0x0F85, .leftToRight), (0x0F86, .nonspacingMark), (0x0F88, .leftToRight), (0x0F8D, .nonspacingMark),
   (0x0F98, .leftToRight), (0x0F99, .nonspacingMark), (0x0FBD, .leftToRight), (0x0FC6, .nonspacingMark),
   (0x0FC7, .leftToRight), (0x102D, .nonspacingMark), (0x1031, .leftToRight), (0x1032, .nonspacingMark),
   (0x1038, .leftToRight), (0x1039, .nonspacingMark), (0x103B, .leftToRight), (0x103D, .nonspacingMark),
   (0x103F, .leftToRight), (0x1058, .nonspacingMark), (0x105A, .leftToRight), (0x105E, .nonspacingMark),
   (0x1061, .leftToRight), (0x1071, .nonspacingMark), (0x1075, .leftToRight), (0x1082, .nonspacingMark),
   (0x1083, .leftToRight), (0x1085, .nonspacingMark), (0x1087, .leftToRight), (0x108D, .nonspacingMark),
   (0x108E, .leftToRight), (0x109D, .nonspacingMark), (0x109E, .leftToRight), (0x135D, .nonspacingMark),
   (0x1360, .leftToRight), (0x1390, .otherNeutral), (0x139A, .leftToRight), (0x1400, .otherNeutral),
   (0x1401, .leftToRight), (0x1680, .whiteSpace), (0x1681, .leftToRight), (0x169B, .otherNeutral),
   (0x169D, .leftToRight), (0x1712, .nonspacingMark), (0x1715, .leftToRight), (0x1732, .nonspacingMark),
   (0x1734, .leftToRight), (0x1752, .nonspacingMark), (0x1754, .leftToRight), (0x1772, .nonspacingMark),
   (0x1774, .leftToRight), (0x17B4, .nonspacingMark), (0x17B6, .leftToRight), (0x17B7, .nonspacingMark),
   (0x17BE, .leftToRight), (0x17C6, .nonspacingMark), (0x17C7, .leftToRight), (0x17C9, .nonspacingMark),
   (0x17D4, .leftToRight), (0x17DB, .europeanTerminator), (0x17DC, .leftToRight), (0x17DD, .nonspacingMark),
   (0x17DE, .leftToRight), (0x17F0, .otherNeutral), (0x17FA, .leftToRight), (0x1800, .otherNeutral),
   (0x180B, .nonspacingMark), (0x180E, .boundaryNeutral), (0x180F, .nonspacingMark), (0x1810, .leftToRight),
   (0x1885, .nonspacingMark), (0x1887, .leftToRight), (0x18A9, .nonspacingMark), (0x18AA, .leftToRight),
   (0x1920, .nonspacingMark), (0x1923, .leftToRight), (0x1927, .nonspacingMark), (0x1929, .leftToRight),
   (0x1932, .nonspacingMark), (0x1933, .leftToRight), (0x1939, .nonspacingMark), (0x193C, .leftToRight),
   (0x1940, .otherNeutral), (0x1941, .leftToRight), (0x1944, .otherNeutral), (0x1946, .leftToRight),
   (0x19DE, .otherNeutral), (0x1A00, .leftToRight), (0x1A17, .nonspacingMark), (0x1A19, .leftToRight),
   (0x1A1B, .nonspacingMark), (0x1A1C, .leftToRight), (0x1A56, .nonspacingMark), (0x1A57, .leftToRight),
   (0x1A58, .nonspacingMark), (0x1A5F, .leftToRight), (0x1A60, .nonspacingMark), (0x1A61, .leftToRight),
   (0x1A62, .nonspacingMark), (0x1A63, .leftToRight), (0x1A65, .nonspacingMark), (0x1A6D, .leftToRight),
   (0x1A73, .nonspacingMark), (0x1A7D, .leftToRight), (0x1A7F, .nonspacingMark), (0x1A80, .leftToRight),
   (0x1AB0, .nonspacingMark), (0x1ACF, .leftToRight), (0x1B00, .nonspacingMark), (0x1B04, .leftToRight),
   (0x1B34, .nonspacingMark), (0x1B35, .leftToRight), (0x1B36, .nonspacingMark), (0x1B3B, .leftToRight),
   (0x1B3C, .nonspacingMark), (0x1B3D, .leftToRight), (0x1B42, .nonspacingMark), (0x1B43, .leftToRight),
   (0x1B6B, .nonspacingMark), (0x1B74, .leftToRight), (0x1B80, .nonspacingMark), (0x1B82, .leftToRight),
   (0x1BA2, .nonspacingMark), (0x1BA6, .leftToRight), (0x1BA8, .nonspacingMark), (0x1BAA, .leftToRight),
   (0x1BAB, .nonspacingMark), (0x1BAE, .leftToRight), (0x1BE6, .nonspacingMark), (0x1BE7, .leftToRight),
   (0x1BE8, .nonspacingMark), (0x1BEA, .leftToRight), (0x1BED, .nonspacingMark), (0x1BEE, .leftToRight),
   (0x1BEF, .nonspacingMark), (0x1BF2, .leftToRight), (0x1C2C, .nonspacingMark), (0x1C34, .leftToRight),
   (0x1C36, .nonspacingMark), (0x1C38, .leftToRight), (0x1CD0, .nonspacingMark), (0x1CD3, .leftToRight),
   (0x1CD4, .nonspacingMark), (0x1CE1, .leftToRight), (0x1CE2, .nonspacingMark), (0x1CE9, .leftToRight),
   (0x1CED, .nonspacingMark), (0x1CEE, .leftToRight), (0x1CF4, .nonspacingMark), (0x1CF5, .leftToRight),
   (0x1CF8, .nonspacingMark), (0x1CFA, .leftToRight), (0x1DC0, .nonspacingMark), (0x1E00, .leftToRight),
   (0x1FBD, .otherNeutral), (0x1FBE, .leftToRight), (0x1FBF, .otherNeutral), (0x1FC2, .leftToRight),
   (0x1FCD, .otherNeutral), (0x1FD0, .leftToRight), (0x1FDD, .otherNeutral), (0x1FE0, .leftToRight),
   (0x1FED, .otherNeutral), (0x1FF0, .leftToRight), (0x1FFD, .otherNeutral), (0x1FFF, .leftToRight),
   (0x2000, .whiteSpace), (0x200B, .boundaryNeutral), (0x200E, .leftToRight), (0x200F, .rightToLeft),
   (0x2010, .otherNeutral), (0x2028, .whiteSpace), (0x2029, .paragraphSeparator), (0x202A, .leftToRightEmbedding),
   (0x202B, .rightToLeftEmbedding), (0x202C, .popDirectionalFormat), (0x202D, .leftToRightOverride), (0x202E, .rightToLeftOverride),
   (0x202F, .commonSeparator), (0x2030, .europeanTerminator), (0x2035, .otherNeutral), (0x2044, .commonSeparator),
   (0x2045, .otherNeutral), (0x205F, .whiteSpace), (0x2060, .boundaryNeutral), (0x2066, .leftToRightIsolate),
   (0x2067, .rightToLeftIsolate), (0x2068, .firstStrongIsolate), (0x2069, .popDirectionalIsolate), (0x206A, .boundaryNeutral),
   (0x2070, .europeanNumber), (0x2071, .leftToRight), (0x2074, .europeanNumber), (0x207A, .europeanSeparator),
   (0x207C, .otherNeutral), (0x207F, .leftToRight), (0x2080, .europeanNumber), (0x208A, .europeanSeparator),
   (0x208C, .otherNeutral), (0x208F, .leftToRight), (0x20A0, .europeanTerminator), (0x20D0, .nonspacingMark),
   (0x20F1, .leftToRight), (0x2100, .otherNeutral), (0x2102, .leftToRight), (0x2103, .otherNeutral),
   (0x2107, .leftToRight), (0x2108, .otherNeutral), (0x210A, .leftToRight), (0x2114, .otherNeutral),
   (0x2115, .leftToRight), (0x2116, .otherNeutral), (0x2119, .leftToRight), (0x211E, .otherNeutral),
   (0x2124, .leftToRight), (0x2125, .otherNeutral), (0x2126, .leftToRight), (0x2127, .otherNeutral),
   (0x2128, .leftToRight), (0x2129, .otherNeutral), (0x212A, .leftToRight), (0x212E, .europeanTerminator),
   (0x212F, .leftToRight), (0x213A, .otherNeutral), (0x213C, .leftToRight), (0x2140, .otherNeutral),
   (0x2145, .leftToRight), (0x214A, .otherNeutral), (0x214E, .leftToRight), (0x2150, .otherNeutral),
   (0x2160, .leftToRight), (0x2189, .otherNeutral), (0x218C, .leftToRight), (0x2190, .otherNeutral),
   (0x2212, .europeanSeparator), (0x2213, .europeanTerminator), (0x2214, .otherNeutral), (0x2336, .leftToRight),
   (0x237B, .otherNeutral), (0x2395, .leftToRight), (0x2396, .otherNeutral), (0x2427, .leftToRight),
   (0x2440, .otherNeutral), (0x244B, .leftToRight), (0x2460, .otherNeutral), (0x2488, .europeanNumber),
   (0x249C, .leftToRight), (0x24EA, .otherNeutral), (0x26AC, .leftToRight), (0x26AD, .otherNeutral),
   (0x2800, .leftToRight), (0x2900, .otherNeutral), (0x2B74, .leftToRight), (0x2B76, .otherNeutral),
   (0x2B96, .leftToRight), (0x2B97, .otherNeutral), (0x2C00, .leftToRight), (0x2CE5, .otherNeutral),
   (0x2CEB, .leftToRight), (0x2CEF, .nonspacingMark), (0x2CF2, .leftToRight), (0x2CF9, .otherNeutral),
   (0x2D00, .leftToRight), (0x2D7F, .nonspacingMark), (0x2D80, .leftToRight), (0x2DE0, .nonspacingMark),
   (0x2E00, .otherNeutral), (0x2E5E, .leftToRight), (0x2E80, .otherNeutral), (0x2E9A, .leftToRight),
   (0x2E9B, .otherNeutral), (0x2EF4, .leftToRight), (0x2F00, .otherNeutral), (0x2FD6, .leftToRight),
   (0x2FF0, .otherNeutral), (0x2FFC, .leftToRight), (0x3000, .whiteSpace), (0x3001, .otherNeutral),
   (0x3005, .leftToRight), (0x3008, .otherNeutral), (0x3021, .leftToRight), (0x302A, .nonspacingMark),
   (0x302E, .leftToRight), (0x3030, .otherNeutral), (0x3031, .leftToRight), (0x3036, .otherNeutral),
   (0x3038, .leftToRight), (0x303D, .otherNeutral), (0x3040, .leftToRight), (0x3099, .nonspacingMark),
   (0x309B, .otherNeutral), (0x309D, .leftToRight), (0x30A0, .otherNeutral), (0x30A1, .leftToRight),
   (0x30FB, .otherNeutral), (0x30FC, .leftToRight), (0x31C0, .otherNeutral), (0x31E4, .leftToRight),
   (0x321D, .otherNeutral), (0x321F, .leftToRight), (0x3250, .otherNeutral), (0x3260, .leftToRight)]

/-- Entries 600 onwards of `bidiStarts`. -/
def bidiStartsPart1 : List (Nat × BidiClass) :=
  [(0x327C, .otherNeutral), (0x327F, .leftToRight), (0x32B1, .otherNeutral), (0x32C0, .leftToRight),
   (0x32CC, .otherNeutral), (0x32D0, .leftToRight), (0x3377, .otherNeutral), (0x337B, .leftToRight),
   (0x33DE, .otherNeutral), (0x33E0, .leftToRight), (0x33FF, .otherNeutral), (0x3400, .leftToRight),
   (0x4DC0, .otherNeutral), (0x4E00, .leftToRight), (0xA490, .otherNeutral), (0xA4C7, .leftToRight),
   (0xA60D, .otherNeutral), (0xA610, .leftToRight), (0xA66F, .nonspacingMark), (0xA673, .otherNeutral),
   (0xA674, .nonspacingMark), (0xA67E, .otherNeutral), (0xA680, .leftToRight), (0xA69E, .nonspacingMark),
   (0xA6A0, .leftToRight), (0xA6F0, .nonspacingMark), (0xA6F2, .leftToRight), (0xA700, .otherNeutral),
   (0xA722, .leftToRight), (0xA788, .otherNeutral), (0xA789, .leftToRight), (0xA802, .nonspacingMark),
   (0xA803, .leftToRight), (0xA806, .nonspacingMark), (0xA807, .leftToRight), (0xA80B, .nonspacingMark),
   (0xA80C, .leftToRight), (0xA825, .nonspacingMark), (0xA827, .leftToRight), (0xA828, .otherNeutral),
   (0xA82C, .nonspacingMark), (0xA82D, .leftToRight), (0xA838, .europeanTerminator), (0xA83A, .leftToRight),
   (0xA874, .otherNeutral), (0xA878, .leftToRight), (0xA8C4, .nonspacingMark), (0xA8C6, .leftToRight),
   (0xA8E0, .nonspacingMark), (0xA8F2, .leftToRight), (0xA8FF, .nonspacingMark), (0xA900, .leftToRight),
   (0xA926, .nonspacingMark), (0xA92E, .leftToRight), (0xA947, .nonspacingMark), (0xA952, .leftToRight),
   (0xA980, .nonspacingMark), (0xA983, .leftToRight), (0xA9B3, .nonspacingMark), (0xA9B4, .leftToRight),
   (0xA9B6, .nonspacingMark), (0xA9BA, .leftToRight), (0xA9BC, .nonspacingMark), (0xA9BE, .leftToRight),
   (0xA9E5, .nonspacingMark), (0xA9E6, .leftToRight), (0xAA29, .nonspacingMark), (0xAA2F, .leftToRight),
   (0xAA31, .nonspacingMark), (0xAA33, .leftToRight), (0xAA35, .nonspacingMark), (0xAA37, .leftToRight),
   (0xAA43, .nonspacingMark), (0xAA44, .leftToRight), (0xAA4C, .nonspacingMark), (0xAA4D, .leftToRight),
   (0xAA7C, .nonspacingMark), (0xAA7D, .leftToRight), (0xAAB0, .nonspacingMark), (0xAAB1, .leftToRight),
   (0xAAB2, .nonspacingMark), (0xAAB5, .leftToRight), (0xAAB7, .nonspacingMark), (0xAAB9, .leftToRight),
   (0xAABE, .nonspacingMark), (0xAAC0, .leftToRight), (0xAAC1, .nonspacingMark), (0xAAC2, .leftToRight),
   (0xAAEC, .nonspacingMark), (0xAAEE, .leftToRight), (0xAAF6, .nonspacingMark), (0xAAF7, .leftToRight),
   (0xAB6A, .otherNeutral), (0xAB6C, .leftToRight), (0xABE5, .nonspacingMark), (0xABE6, .leftToRight),
   (0xABE8, .nonspacingMark), (0xABE9, .leftToRight), (0xABED, .nonspacingMark), (0xABEE, .leftToRight),
   (0xFB1D, .rightToLeft), (0xFB1E, .nonspacingMark), (0xFB1F, .rightToLeft), (0xFB29, .europeanSeparator),
   (0xFB2A, .rightToLeft), (0xFB50, .arabicLetter), (0xFD3E, .otherNeutral), (0xFD50, .arabicLetter),
   (0xFDCF, .otherNeutral), (0xFDD0, .boundaryNeutral), (0xFDF0, .arabicLetter), (0xFDFD, .otherNeutral),
   (0xFE00, .nonspacingMark), (0xFE10, .otherNeutral), (0xFE1A, .leftToRight), (0xFE20, .nonspacingMark),
   (0xFE30, .otherNeutral), (0xFE50, .commonSeparator), (0xFE51, .otherNeutral), (0xFE52, .commonSeparator),
   (0xFE53, .leftToRight), (0xFE54, .otherNeutral), (0xFE55, .commonSeparator), (0xFE56, .otherNeutral),
   (0xFE5F, .europeanTerminator), (0xFE60, .otherNeutral), (0xFE62, .europeanSeparator), (0xFE64, .otherNeutral),
   (0xFE67, .leftToRight), (0xFE68, .otherNeutral), (0xFE69, .europeanTerminator), (0xFE6B, .otherNeutral),
   (0xFE6C, .leftToRight), (0xFE70, .arabicLetter), (0xFEFF, .boundaryNeutral), (0xFF00, .leftToRight),
   (0xFF01, .otherNeutral), (0xFF03, .europeanTerminator), (0xFF06, .otherNeutral), (0xFF0B, .europeanSeparator),
   (0xFF0C, .commonSeparator), (0xFF0D, .europeanSeparator), (0xFF0E, .commonSeparator), (0xFF10, .europeanNumber),
   (0xFF1A, .commonSeparator), (0xFF1B, .otherNeutral), (0xFF21, .leftToRight), (0xFF3B, .otherNeutral),
   (0xFF41, .leftToRight), (0xFF5B, .otherNeutral), (0xFF66, .leftToRight), (0xFFE0, .europeanTerminator),
   (0xFFE2, .otherNeutral), (0xFFE5, .europeanTerminator), (0xFFE7, .leftToRight), (0xFFE8, .otherNeutral),
   (0xFFEF, .leftToRight), (0xFFF0, .boundaryNeutral), (0xFFF9, .otherNeutral), (0xFFFE, .boundaryNeutral),
   (0x10000, .leftToRight), (0x10101, .otherNeutral), (0x10102, .leftToRight), (0x10140, .otherNeutral),
   (0x1018D, .leftToRight), (0x10190, .otherNeutral), (0x1019D, .leftToRight), (0x101A0, .otherNeutral),
   (0x101A1, .leftToRight), (0x101FD, .nonspacingMark), (0x101FE, .leftToRight), (0x102E0, .nonspacingMark),
   (0x102E1, .europeanNumber), (0x102FC, .leftToRight), (0x10376, .nonspacingMark), (0x1037B, .leftToRight),
   (0x10800, .rightToLeft), (0x1091F, .otherNeutral), (0x10920, .rightToLeft), (0x10A01, .nonspacingMark),
   (0x10A04, .rightToLeft), (0x10A05, .nonspacingMark), (0x10A07, .rightToLeft), (0x10A0C, .nonspacingMark),
   (0x10A10, .rightToLeft), (0x10A38, .nonspacingMark), (0x10A3B, .rightToLeft), (0x10A3F, .nonspacingMark),
   (0x10A40, .rightToLeft), (0x10AE5, .nonspacingMark), (0x10AE7, .rightToLeft), (0x10B39, .otherNeutral),
   (0x10B40, .rightToLeft), (0x10D00, .arabicLetter), (0x10D24, .nonspacingMark), (0x10D28, .arabicLetter),
   (0x10D30, .arabicNumber), (0x10D3A, .arabicLetter), (0x10D40, .rightToLeft), (0x10E60, .arabicNumber),
   (0x10E7F, .rightToLeft), (0x10EAB, .nonspacingMark), (0x10EAD, .rightToLeft), (0x10EC0, .arabicLetter),
   (0x10EFD, .nonspacingMark), (0x10F00, .rightToLeft), (0x10F30, .arabicLetter), (0x10F46, .nonspacingMark),
   (0x10F51, .arabicLetter), (0x10F70, .rightToLeft), (0x10F82, .nonspacingMark), (0x10F86, .rightToLeft),
   (0x11000, .leftToRight), (0x11001, .nonspacingMark), (0x11002, .leftToRight), (0x11038, .nonspacingMark),
   (0x11047, .leftToRight), (0x11052, .otherNeutral), (0x11066, .leftToRight), (0x11070, .nonspacingMark),
   (0x11071, .leftToRight), (0x11073, .nonspacingMark), (0x11075, .leftToRight), (0x1107F, .nonspacingMark),
   (0x11082, .leftToRight), (0x110B3, .nonspacingMark), (0x110B7, .leftToRight), (0x110B9, .nonspacingMark),
   (0x110BB, .leftToRight), (0x110C2, .nonspacingMark), (0x110C3, .leftToRight), (0x11100, .nonspacingMark),
   (0x11103, .leftToRight), (0x11127, .nonspacingMark), (0x1112C, .leftToRight), (0x1112D, .nonspacingMark),
   (0x11135, .leftToRight), (0x11173, .nonspacingMark), (0x11174, .leftToRight), (0x11180, .nonspacingMark),
   (0x11182, .leftToRight), (0x111B6, .nonspacingMark), (0x111BF, .leftToRight), (0x111C9, .nonspacingMark),
   (0x111CD, .leftToRight), (0x111CF, .nonspacingMark), (0x111D0, .leftToRight), (0x1122F, .nonspacingMark),
   (0x11232, .leftToRight), (0x11234, .nonspacingMark), (0x11235, .leftToRight), (0x11236, .nonspacingMark),
   (0x11238, .leftToRight), (0x1123E, .nonspacingMark), (0x1123F, .leftToRight), (0x11241, .nonspacingMark),
   (0x11242, .leftToRight), (0x112DF, .nonspacingMark), (0x112E0, .leftToRight), (0x112E3, .nonspacingMark),
   (0x112EB, .leftToRight), (0x11300, .nonspacingMark), (0x11302, .leftToRight), (0x1133B, .nonspacingMark),
   (0x1133D, .leftToRight), (0x11340, .nonspacingMark), (0x11341, .leftToRight), (0x11366, .nonspacingMark),
   (0x1136D, .leftToRight), (0x11370, .nonspacingMark), (0x11375, .leftToRight), (0x11438, .nonspacingMark),
   (0x11440, .leftToRight), (0x11442, .nonspacingMark), (0x11445, .leftToRight), (0x11446, .nonspacingMark),
   (0x11447, .leftToRight), (0x1145E, .nonspacingMark), (0x1145F, .leftToRight), (0x114B3, .nonspacingMark),
   (0x114B9, .leftToRight), (0x114BA, .nonspacingMark), (0x114BB, .leftToRight), (0x114BF, .nonspacingMark),
   (0x114C1, .leftToRight), (0x114C2, .nonspacingMark), (0x114C4, .leftToRight), (0x115B2, .nonspacingMark),
   (0x115B6, .leftToRight), (0x115BC, .nonspacingMark), (0x115BE, .leftToRight), (0x115BF, .nonspacingMark),
   (0x115C1, .leftToRight), (0x115DC, .nonspacingMark), (0x115DE, .leftToRight), (0x11633, .nonspacingMark),
   (0x1163B, .leftToRight), (0x1163D, .nonspacingMark), (0x1163E, .leftToRight), (0x1163F, .nonspacingMark),
   (0x11641, .leftToRight), (0x11660, .otherNeutral), (0x1166D, .leftToRight), (0x116AB, .nonspacingMark),
   (0x116AC, .leftToRight), (0x116AD, .nonspacingMark), (0x116AE, .leftToRight), (0x116B0, .nonspacingMark),
   (0x116B6, .leftToRight), (0x116B7, .nonspacingMark), (0x116B8, .leftToRight), (0x1171D, .nonspacingMark),
   (0x11720, .leftToRight), (0x11722, .nonspacingMark), (0x11726, .leftToRight), (0x11727, .nonspacingMark),
   (0x1172C, .leftToRight), (0x1182F, .nonspacingMark), (0x11838, .leftToRight), (0x11839, .nonspacingMark),
   (0x1183B, .leftToRight), (0x1193B, .nonspacingMark), (0x1193D, .leftToRight), (0x1193E, .nonspacingMark),
   (0x1193F, .leftToRight), (0x11943, .nonspacingMark), (0x11944, .leftToRight), (0x119D4, .nonspacingMark),
   (0x119D8, .leftToRight), (0x119DA, .nonspacingMark), (0x119DC, .leftToRight), (0x119E0, .nonspacingMark),
   (0x119E1, .leftToRight), (0x11A01, .nonspacingMark), (0x11A07, .leftToRight), (0x11A09, .nonspacingMark),
   (0x11A0B, .leftToRight), (0x11A33, .nonspacingMark), (0x11A39, .leftToRight), (0x11A3B, .nonspacingMark),
   (0x11A3F, .leftToRight), (0x11A47, .nonspacingMark), (0x11A48, .leftToRight), (0x11A51, .nonspacingMark),
   (0x11A57, .leftToRight), (0x11A59, .nonspacingMark), (0x11A5C, .leftToRight), (0x11A8A, .nonspacingMark),
   (0x11A97, .leftToRight), (0x11A98, .nonspacingMark), (0x11A9A, .leftToRight), (0x11C30, .nonspacingMark),
   (0x11C37, .leftToRight), (0x11C38, .nonspacingMark), (0x11C3E, .leftToRight), (0x11C92, .nonspacingMark),
   (0x11CA8, .leftToRight), (0x11CAA, .nonspacingMark), (0x11CB1, .leftToRight), (0x11CB2, .nonspacingMark),
   (0x11CB4, .leftToRight), (0x11CB5, .nonspacingMark), (0x11CB7, .leftToRight), (0x11D31, .nonspacingMark),
   (0x11D37, .leftToRight), (0x11D3A, .nonspacingMark), (0x11D3B, .leftToRight), (0x11D3C, .nonspacingMark),
   (0x11D3E, .leftToRight), (0x11D3F, .nonspacingMark), (0x11D46, .leftToRight), (0x11D47, .nonspacingMark),
   (0x11D48, .leftToRight), (0x11D90, .nonspacingMark), (0x11D92, .leftToRight), (0x11D95, .nonspacingMark),
   (0x11D96, .leftToRight), (0x11D97, .nonspacingMark), (0x11D98, .leftToRight), (0x11EF3, .nonspacingMark),
   (0x11EF5, .leftToRight), (0x11F00, .nonspacingMark), (0x11F02, .leftToRight), (0x11F36, .nonspacingMark),
   (0x11F3B, .leftToRight), (0x11F40, .nonspacingMark), (0x11F41, .leftToRight), (0x11F42, .nonspacingMark),
   (0x11F43, .leftToRight), (0x11FD5, .otherNeutral), (0x11FDD, .europeanTerminator), (0x11FE1, .otherNeutral),
   (0x11FF2, .leftToRight), (0x13440, .nonspacingMark), (0x13441, .leftToRight), (0x13447, .nonspacingMark),
   (0x13456, .leftToRight), (0x16AF0, .nonspacingMark), (0x16AF5, .leftToRight), (0x16B30, .nonspacingMark),
   (0x16B37, .leftToRight), (0x16F4F, .nonspacingMark), (0x16F50, .leftToRight), (0x16F8F, .nonspacingMark),
   (0x16F93, .leftToRight), (0x16FE2, .otherNeutral), (0x16FE3, .leftToRight), (0x16FE4, .nonspacingMark),
   (0x16FE5, .leftToRight), (0x1BC9D, .nonspacingMark), (0x1BC9F, .leftToRight), (0x1BCA0, .boundaryNeutral),
   (0x1BCA4, .leftToRight), (0x1CF00, .nonspacingMark), (0x1CF2E, .leftToRight), (0x1CF30, .nonspacingMark),
   (0x1CF47, .leftToRight), (0x1D167, .nonspacingMark), (0x1D16A, .leftToRight), (0x1D173, .boundaryNeutral),
   (0x1D17B, .nonspacingMark), (0x1D183, .leftToRight), (0x1D185, .nonspacingMark), (0x1D18C, .leftToRight),
   (0x1D1AA, .nonspacingMark), (0x1D1AE, .leftToRight), (0x1D1E9, .otherNeutral), (0x1D1EB, .leftToRight),
   (0x1D200, .otherNeutral), (0x1D242, .nonspacingMark), (0x1D245, .otherNeutral), (0x1D246, .leftToRight),
   (0x1D300, .otherNeutral), (0x1D357, .leftToRight), (0x1D6DB, .otherNeutral), (0x1D6DC, .leftToRight),
   (0x1D715, .otherNeutral), (0x1D716, .leftToRight), (0x1D74F, .otherNeutral), (0x1D750, .leftToRight),
   (0x1D789, .otherNeutral), (0x1D78A, .leftToRight), (0x1D7C3, .otherNeutral), (0x1D7C4, .leftToRight),
   (0x1D7CE, .europeanNumber), (0x1D800, .leftToRight), (0x1DA00, .nonspacingMark), (0x1DA37, .leftToRight),
   (0x1DA3B, .nonspacingMark), (0x1DA6D, .leftToRight), (0x1DA75, .nonspacingMark), (0x1DA76, .leftToRight),
   (0x1DA84, .nonspacingMark), (0x1DA85, .leftToRight), (0x1DA9B, .nonspacingMark), (0x1DAA0, .leftToRight),
   (0x1DAA1, .nonspacingMark), (0x1DAB0, .leftToRight), (0x1E000, .nonspacingMark), (0x1E007, .leftToRight),
   (0x1E008, .nonspacingMark), (0x1E019, .leftToRight), (0x1E01B, .nonspacingMark), (0x1E022, .leftToRight),
   (0x1E023, .nonspacingMark), (0x1E025, .leftToRight), (0x1E026, .nonspacingMark), (0x1E02B, .leftToRight),
   (0x1E08F, .nonspacingMark), (0x1E090, .leftToRight), (0x1E130, .nonspacingMark), (0x1E137, .leftToRight),
   (0x1E2AE, .nonspacingMark), (0x1E2AF, .leftToRight), (0x1E2EC, .nonspacingMark), (0x1E2F0, .leftToRight),
   (0x1E2FF, .europeanTerminator), (0x1E300, .leftToRight), (0x1E4EC, .nonspacingMark), (0x1E4F0, .leftToRight),
   (0x1E800, .rightToLeft), (0x1E8D0, .nonspacingMark), (0x1E8D7, .rightToLeft), (0x1E944, .nonspacingMark),
   (0x1E94B, .rightToLeft), (0x1EC70, .arabicLetter), (0x1ECC0, .rightToLeft), (0x1ED00, .arabicLetter),
   (0x1ED50, .rightToLeft), (0x1EE00, .arabicLetter), (0x1EEF0, .otherNeutral), (0x1EEF2, .arabicLetter),
   (0x1EF00, .rightToLeft), (0x1F000, .otherNeutral), (0x1F02C, .leftToRight), (0x1F030, .otherNeutral),
   (0x1F094, .leftToRight), (0x1F0A0, .otherNeutral), (0x1F0AF, .leftToRight), (0x1F0B1, .otherNeutral),
   (0x1F0C0, .leftToRight), (0x1F0C1, .otherNeutral), (0x1F0D0, .leftToRight), (0x1F0D1, .otherNeutral),
   (0x1F0F6, .leftToRight), (0x1F100, .europeanNumber), (0x1F10B, .otherNeutral), (0x1F110, .leftToRight),
   (0x1F12F, .otherNeutral), (0x1F130, .leftToRight), (0x1F16A, .otherNeutral), (0x1F170, .leftToRight),
   (0x1F1AD, .otherNeutral), (0x1F1AE, .leftToRight), (0x1F260, .otherNeutral), (0x1F266, .leftToRight),
   (0x1F300, .otherNeutral), (0x1F6D8, .leftToRight), (0x1F6DC, .otherNeutral), (0x1F6ED, .leftToRight),
   (0x1F6F0, .otherNeutral), (0x1F6FD, .leftToRight), (0x1F700, .otherNeutral), (0x1F777, .leftToRight),
   (0x1F77B, .otherNeutral), (0x1F7DA, .leftToRight), (0x1F7E0, .otherNeutral), (0x1F7EC, .leftToRight),
   (0x1F7F0, .otherNeutral), (0x1F7F1, .leftToRight), (0x1F800, .otherNeutral), (0x1F80C, .leftToRight),
   (0x1F810, .otherNeutral), (0x1F848, .leftToRight), (0x1F850, .otherNeutral), (0x1F85A, .leftToRight),
   (0x1F860, .otherNeutral), (0x1F888, .leftToRight), (0x1F890, .otherNeutral), (0x1F8AE, .leftToRight),
   (0x1F8B0, .otherNeutral), (0x1F8B2, .leftToRight), (0x1F900, .otherNeutral), (0x1FA54, .leftToRight),
   (0x1FA60, .otherNeutral), (0x1FA6E, .leftToRight), (0x1FA70, .otherNeutral), (0x1FA7D, .leftToRight),
   (0x1FA80, .otherNeutral), (0x1FA89, .leftToRight), (0x1FA90, .otherNeutral), (0x1FABE, .leftToRight),
   (0x1FABF, .otherNeutral), (0x1FAC6, .leftToRight), (0x1FACE, .otherNeutral), (0x1FADC, .leftToRight),
   (0x1FAE0, .otherNeutral), (0x1FAE9, .leftToRight), (0x1FAF0, .otherNeutral), (0x1FAF9, .leftToRight),
   (0x1FB00, .otherNeutral), (0x1FB93, .leftToRight), (0x1FB94, .otherNeutral), (0x1FBCB, .leftToRight),
   (0x1FBF0, .europeanNumber), (0x1FBFA, .leftToRight), (0x1FFFE, .boundaryNeutral), (0x20000, .leftToRight),
   (0x2FFFE, .boundaryNeutral), (0x30000, .leftToRight), (0x3FFFE, .boundaryNeutral), (0x40000, .leftToRight),
   (0x4FFFE, .boundaryNeutral), (0x50000, .leftToRight), (0x5FFFE, .boundaryNeutral), (0x60000, .leftToRight),
   (0x6FFFE, .boundaryNeutral), (0x70000, .leftToRight), (0x7FFFE, .boundaryNeutral), (0x80000, .leftToRight),
   (0x8FFFE, .boundaryNeutral), (0x90000, .leftToRight), (0x9FFFE, .boundaryNeutral), (0xA0000, .leftToRight),
   (0xAFFFE, .boundaryNeutral), (0xB0000, .leftToRight), (0xBFFFE, .boundaryNeutral), (0xC0000, .leftToRight),
   (0xCFFFE, .boundaryNeutral), (0xD0000, .leftToRight), (0xDFFFE, .boundaryNeutral), (0xE0100, .nonspacingMark),
   (0xE01F0, .boundaryNeutral), (0xE1000, .leftToRight), (0xEFFFE, .boundaryNeutral), (0xF0000, .leftToRight),
   (0xFFFFE, .boundaryNeutral), (0x100000, .leftToRight), (0x10FFFE, .boundaryNeutral), (0x110000, .leftToRight)]

/-- The class from each code point on where it changes, in increasing order. -/
def bidiStarts : Array (Nat × BidiClass) :=
  (bidiStartsPart0 ++
    bidiStartsPart1).toArray

/-- The bidirectional class of `c`. -/
def bidiClass (c : Char) : BidiClass :=
  (lastAtMost bidiStarts c.toNat).getD .leftToRight

end LiveViewer.Text
