import LiveViewer.Text.Table

/-!
# The IDNA mapping table

Before a domain name is checked, each of its characters is mapped by the table of Unicode
Technical Standard 46, version 17.0: it stays as it is (`valid`, deviations included, as
nontransitional processing keeps them), is replaced by a sequence of characters (`mapped`),
is dropped (`ignored`), or refuses the name (`disallowed`). The table gives the status from
each code point on where it changes, in increasing order. Two shorthands keep it small: a run
of characters each mapped to the character `delta` places away (`shifted`), and a run of case
pairs in which each character at an even distance from the start is mapped to the one after
it, which is valid (`pairs`).
-/

namespace LiveViewer.Url

/-- The status of the characters from an entry of the table on. -/
inductive IdnaStatus where
  | valid
  | ignored
  | disallowed
  /-- Each character is replaced by these code points. -/
  | mapped (target : List Nat)
  /-- Each character is replaced by the one `delta` places away. -/
  | shifted (delta : Int)
  /-- Case pairs: a character at an even distance from the entry's key is replaced by the one
  after it, and that one is valid. -/
  | pairs
  deriving DecidableEq, Repr

/-- Entries 0 onwards of `idnaStarts`. -/
def idnaStartsPart0 : List (Nat × IdnaStatus) :=
  [(0x0000, .valid), (0x0041, .shifted (32)), (0x005B, .valid),
   (0x0080, .disallowed), (0x00A0, .mapped [0x0020]), (0x00A1, .valid),
   (0x00A8, .mapped [0x0020, 0x0308]), (0x00A9, .valid), (0x00AA, .mapped [0x0061]),
   (0x00AB, .valid), (0x00AD, .ignored), (0x00AE, .valid),
   (0x00AF, .mapped [0x0020, 0x0304]), (0x00B0, .valid), (0x00B2, .shifted (-128)),
   (0x00B4, .mapped [0x0020, 0x0301]), (0x00B5, .mapped [0x03BC]), (0x00B6, .valid),
   (0x00B8, .mapped [0x0020, 0x0327]), (0x00B9, .mapped [0x0031]), (0x00BA, .mapped [0x006F]),
   (0x00BB, .valid), (0x00BC, .mapped [0x0031, 0x2044, 0x0034]), (0x00BD, .mapped [0x0031, 0x2044, 0x0032]),
   (0x00BE, .mapped [0x0033, 0x2044, 0x0034]), (0x00BF, .valid), (0x00C0, .shifted (32)),
   (0x00D7, .valid), (0x00D8, .shifted (32)), (0x00DF, .valid),
   (0x0100, .pairs), (0x0130, .mapped [0x0069, 0x0307]), (0x0131, .valid),
   (0x0132, .mapped [0x0069, 0x006A]), (0x0134, .mapped [0x0135]), (0x0135, .valid),
   (0x0136, .mapped [0x0137]), (0x0137, .valid), (0x0139, .pairs),
   (0x013F, .mapped [0x006C, 0x00B7]), (0x0141, .pairs), (0x0149, .mapped [0x02BC, 0x006E]),
   (0x014A, .pairs), (0x0178, .mapped [0x00FF]), (0x0179, .pairs),
   (0x017F, .mapped [0x0073]), (0x0180, .valid), (0x0181, .mapped [0x0253]),
   (0x0182, .pairs), (0x0186, .mapped [0x0254]), (0x0187, .mapped [0x0188]),
   (0x0188, .valid), (0x0189, .shifted (205)), (0x018B, .mapped [0x018C]),
   (0x018C, .valid), (0x018E, .mapped [0x01DD]), (0x018F, .mapped [0x0259]),
   (0x0190, .mapped [0x025B]), (0x0191, .mapped [0x0192]), (0x0192, .valid),
   (0x0193, .mapped [0x0260]), (0x0194, .mapped [0x0263]), (0x0195, .valid),
   (0x0196, .mapped [0x0269]), (0x0197, .mapped [0x0268]), (0x0198, .mapped [0x0199]),
   (0x0199, .valid), (0x019C, .mapped [0x026F]), (0x019D, .mapped [0x0272]),
   (0x019E, .valid), (0x019F, .mapped [0x0275]), (0x01A0, .pairs),
   (0x01A6, .mapped [0x0280]), (0x01A7, .mapped [0x01A8]), (0x01A8, .valid),
   (0x01A9, .mapped [0x0283]), (0x01AA, .valid), (0x01AC, .mapped [0x01AD]),
   (0x01AD, .valid), (0x01AE, .mapped [0x0288]), (0x01AF, .mapped [0x01B0]),
   (0x01B0, .valid), (0x01B1, .shifted (217)), (0x01B3, .pairs),
   (0x01B7, .mapped [0x0292]), (0x01B8, .mapped [0x01B9]), (0x01B9, .valid),
   (0x01BC, .mapped [0x01BD]), (0x01BD, .valid), (0x01C4, .mapped [0x0064, 0x017E]),
   (0x01C7, .mapped [0x006C, 0x006A]), (0x01CA, .mapped [0x006E, 0x006A]), (0x01CD, .pairs),
   (0x01DB, .mapped [0x01DC]), (0x01DC, .valid), (0x01DE, .pairs),
   (0x01EE, .mapped [0x01EF]), (0x01EF, .valid), (0x01F1, .mapped [0x0064, 0x007A]),
   (0x01F4, .mapped [0x01F5]), (0x01F5, .valid), (0x01F6, .mapped [0x0195]),
   (0x01F7, .mapped [0x01BF]), (0x01F8, .pairs), (0x0220, .mapped [0x019E]),
   (0x0221, .valid), (0x0222, .pairs), (0x0232, .mapped [0x0233]),
   (0x0233, .valid), (0x023A, .mapped [0x2C65]), (0x023B, .mapped [0x023C]),
   (0x023C, .valid), (0x023D, .mapped [0x019A]), (0x023E, .mapped [0x2C66]),
   (0x023F, .valid), (0x0241, .mapped [0x0242]), (0x0242, .valid),
   (0x0243, .mapped [0x0180]), (0x0244, .mapped [0x0289]), (0x0245, .mapped [0x028C]),
   (0x0246, .pairs), (0x024E, .mapped [0x024F]), (0x024F, .valid),
   (0x02B0, .mapped [0x0068]), (0x02B1, .mapped [0x0266]), (0x02B2, .mapped [0x006A]),
   (0x02B3, .mapped [0x0072]), (0x02B4, .mapped [0x0279]), (0x02B5, .mapped [0x027B]),
   (0x02B6, .mapped [0x0281]), (0x02B7, .mapped [0x0077]), (0x02B8, .mapped [0x0079]),
   (0x02B9, .valid), (0x02D8, .mapped [0x0020, 0x0306]), (0x02D9, .mapped [0x0020, 0x0307]),
   (0x02DA, .mapped [0x0020, 0x030A]), (0x02DB, .mapped [0x0020, 0x0328]), (0x02DC, .mapped [0x0020, 0x0303]),
   (0x02DD, .mapped [0x0020, 0x030B]), (0x02DE, .valid), (0x02E0, .mapped [0x0263]),
   (0x02E1, .mapped [0x006C]), (0x02E2, .mapped [0x0073]), (0x02E3, .mapped [0x0078]),
   (0x02E4, .mapped [0x0295]), (0x02E5, .valid), (0x0340, .shifted (-64)),
   (0x0342, .valid), (0x0343, .mapped [0x0313]), (0x0344, .mapped [0x0308, 0x0301]),
   (0x0345, .mapped [0x03B9]), (0x0346, .valid), (0x034F, .ignored),
   (0x0350, .valid), (0x0370, .pairs), (0x0374, .mapped [0x02B9]),
   (0x0375, .valid), (0x0376, .mapped [0x0377]), (0x0377, .valid),
   (0x0378, .disallowed), (0x037A, .mapped [0x0020, 0x03B9]), (0x037B, .valid),
   (0x037E, .mapped [0x003B]), (0x037F, .mapped [0x03F3]), (0x0380, .disallowed),
   (0x0384, .mapped [0x0020, 0x0301]), (0x0385, .mapped [0x0020, 0x0308, 0x0301]), (0x0386, .mapped [0x03AC]),
   (0x0387, .mapped [0x00B7]), (0x0388, .shifted (37)), (0x038B, .disallowed),
   (0x038C, .mapped [0x03CC]), (0x038D, .disallowed), (0x038E, .shifted (63)),
   (0x0390, .valid), (0x0391, .shifted (32)), (0x03A2, .disallowed),
   (0x03A3, .shifted (32)), (0x03AC, .valid), (0x03CF, .mapped [0x03D7]),
   (0x03D0, .mapped [0x03B2]), (0x03D1, .mapped [0x03B8]), (0x03D2, .mapped [0x03C5]),
   (0x03D3, .mapped [0x03CD]), (0x03D4, .mapped [0x03CB]), (0x03D5, .mapped [0x03C6]),
   (0x03D6, .mapped [0x03C0]), (0x03D7, .valid), (0x03D8, .pairs),
   (0x03F0, .mapped [0x03BA]), (0x03F1, .mapped [0x03C1]), (0x03F2, .mapped [0x03C3]),
   (0x03F3, .valid), (0x03F4, .mapped [0x03B8]), (0x03F5, .mapped [0x03B5]),
   (0x03F6, .valid), (0x03F7, .mapped [0x03F8]), (0x03F8, .valid),
   (0x03F9, .mapped [0x03C3]), (0x03FA, .mapped [0x03FB]), (0x03FB, .valid),
   (0x03FD, .shifted (-130)), (0x0400, .shifted (80)), (0x0410, .shifted (32)),
   (0x0430, .valid), (0x0460, .pairs), (0x0480, .mapped [0x0481]),
   (0x0481, .valid), (0x048A, .pairs), (0x04C0, .mapped [0x04CF]),
   (0x04C1, .pairs), (0x04CD, .mapped [0x04CE]), (0x04CE, .valid),
   (0x04D0, .pairs), (0x0530, .disallowed), (0x0531, .shifted (48)),
   (0x0557, .disallowed), (0x0559, .valid), (0x0587, .mapped [0x0565, 0x0582]),
   (0x0588, .valid), (0x058B, .disallowed), (0x058D, .valid),
   (0x0590, .disallowed), (0x0591, .valid), (0x05C8, .disallowed),
   (0x05D0, .valid), (0x05EB, .disallowed), (0x05EF, .valid),
   (0x05F5, .disallowed), (0x0606, .valid), (0x061C, .disallowed),
   (0x061D, .valid), (0x0675, .mapped [0x0627, 0x0674]), (0x0676, .mapped [0x0648, 0x0674]),
   (0x0677, .mapped [0x06C7, 0x0674]), (0x0678, .mapped [0x064A, 0x0674]), (0x0679, .valid),
   (0x06DD, .disallowed), (0x06DE, .valid), (0x070E, .disallowed),
   (0x0710, .valid), (0x074B, .disallowed), (0x074D, .valid),
   (0x07B2, .disallowed), (0x07C0, .valid), (0x07FB, .disallowed),
   (0x07FD, .valid), (0x082E, .disallowed), (0x0830, .valid),
   (0x083F, .disallowed), (0x0840, .valid), (0x085C, .disallowed),
   (0x085E, .valid), (0x085F, .disallowed), (0x0860, .valid),
   (0x086B, .disallowed), (0x0870, .valid), (0x0890, .disallowed),
   (0x0897, .valid), (0x08E2, .disallowed), (0x08E3, .valid),
   (0x0958, .mapped [0x0915, 0x093C]), (0x0959, .mapped [0x0916, 0x093C]), (0x095A, .mapped [0x0917, 0x093C]),
   (0x095B, .mapped [0x091C, 0x093C]), (0x095C, .mapped [0x0921, 0x093C]), (0x095D, .mapped [0x0922, 0x093C]),
   (0x095E, .mapped [0x092B, 0x093C]), (0x095F, .mapped [0x092F, 0x093C]), (0x0960, .valid),
   (0x0984, .disallowed), (0x0985, .valid), (0x098D, .disallowed),
   (0x098F, .valid), (0x0991, .disallowed), (0x0993, .valid),
   (0x09A9, .disallowed), (0x09AA, .valid), (0x09B1, .disallowed),
   (0x09B2, .valid), (0x09B3, .disallowed), (0x09B6, .valid),
   (0x09BA, .disallowed), (0x09BC, .valid), (0x09C5, .disallowed),
   (0x09C7, .valid), (0x09C9, .disallowed), (0x09CB, .valid),
   (0x09CF, .disallowed), (0x09D7, .valid), (0x09D8, .disallowed),
   (0x09DC, .mapped [0x09A1, 0x09BC]), (0x09DD, .mapped [0x09A2, 0x09BC]), (0x09DE, .disallowed),
   (0x09DF, .mapped [0x09AF, 0x09BC]), (0x09E0, .valid), (0x09E4, .disallowed),
   (0x09E6, .valid), (0x09FF, .disallowed), (0x0A01, .valid),
   (0x0A04, .disallowed), (0x0A05, .valid), (0x0A0B, .disallowed),
   (0x0A0F, .valid), (0x0A11, .disallowed), (0x0A13, .valid),
   (0x0A29, .disallowed), (0x0A2A, .valid), (0x0A31, .disallowed),
   (0x0A32, .valid), (0x0A33, .mapped [0x0A32, 0x0A3C]), (0x0A34, .disallowed),
   (0x0A35, .valid), (0x0A36, .mapped [0x0A38, 0x0A3C]), (0x0A37, .disallowed),
   (0x0A38, .valid), (0x0A3A, .disallowed), (0x0A3C, .valid),
   (0x0A3D, .disallowed), (0x0A3E, .valid), (0x0A43, .disallowed),
   (0x0A47, .valid), (0x0A49, .disallowed), (0x0A4B, .valid),
   (0x0A4E, .disallowed), (0x0A51, .valid), (0x0A52, .disallowed),
   (0x0A59, .mapped [0x0A16, 0x0A3C]), (0x0A5A, .mapped [0x0A17, 0x0A3C]), (0x0A5B, .mapped [0x0A1C, 0x0A3C]),
   (0x0A5C, .valid), (0x0A5D, .disallowed), (0x0A5E, .mapped [0x0A2B, 0x0A3C]),
   (0x0A5F, .disallowed), (0x0A66, .valid), (0x0A77, .disallowed),
   (0x0A81, .valid), (0x0A84, .disallowed), (0x0A85, .valid),
   (0x0A8E, .disallowed), (0x0A8F, .valid), (0x0A92, .disallowed),
   (0x0A93, .valid), (0x0AA9, .disallowed), (0x0AAA, .valid),
   (0x0AB1, .disallowed), (0x0AB2, .valid), (0x0AB4, .disallowed),
   (0x0AB5, .valid), (0x0ABA, .disallowed), (0x0ABC, .valid),
   (0x0AC6, .disallowed), (0x0AC7, .valid), (0x0ACA, .disallowed),
   (0x0ACB, .valid), (0x0ACE, .disallowed), (0x0AD0, .valid),
   (0x0AD1, .disallowed), (0x0AE0, .valid), (0x0AE4, .disallowed),
   (0x0AE6, .valid), (0x0AF2, .disallowed), (0x0AF9, .valid),
   (0x0B00, .disallowed), (0x0B01, .valid), (0x0B04, .disallowed),
   (0x0B05, .valid), (0x0B0D, .disallowed), (0x0B0F, .valid),
   (0x0B11, .disallowed), (0x0B13, .valid), (0x0B29, .disallowed),
   (0x0B2A, .valid), (0x0B31, .disallowed), (0x0B32, .valid),
   (0x0B34, .disallowed), (0x0B35, .valid), (0x0B3A, .disallowed),
   (0x0B3C, .valid), (0x0B45, .disallowed), (0x0B47, .valid),
   (0x0B49, .disallowed), (0x0B4B, .valid), (0x0B4E, .disallowed),
   (0x0B55, .valid), (0x0B58, .disallowed), (0x0B5C, .mapped [0x0B21, 0x0B3C]),
   (0x0B5D, .mapped [0x0B22, 0x0B3C]), (0x0B5E, .disallowed), (0x0B5F, .valid),
   (0x0B64, .disallowed), (0x0B66, .valid), (0x0B78, .disallowed),
   (0x0B82, .valid), (0x0B84, .disallowed), (0x0B85, .valid),
   (0x0B8B, .disallowed), (0x0B8E, .valid), (0x0B91, .disallowed),
   (0x0B92, .valid), (0x0B96, .disallowed), (0x0B99, .valid),
   (0x0B9B, .disallowed), (0x0B9C, .valid), (0x0B9D, .disallowed),
   (0x0B9E, .valid), (0x0BA0, .disallowed), (0x0BA3, .valid),
   (0x0BA5, .disallowed), (0x0BA8, .valid), (0x0BAB, .disallowed),
   (0x0BAE, .valid), (0x0BBA, .disallowed), (0x0BBE, .valid),
   (0x0BC3, .disallowed), (0x0BC6, .valid), (0x0BC9, .disallowed),
   (0x0BCA, .valid), (0x0BCE, .disallowed), (0x0BD0, .valid),
   (0x0BD1, .disallowed), (0x0BD7, .valid), (0x0BD8, .disallowed),
   (0x0BE6, .valid), (0x0BFB, .disallowed), (0x0C00, .valid),
   (0x0C0D, .disallowed), (0x0C0E, .valid), (0x0C11, .disallowed),
   (0x0C12, .valid), (0x0C29, .disallowed), (0x0C2A, .valid),
   (0x0C3A, .disallowed), (0x0C3C, .valid), (0x0C45, .disallowed),
   (0x0C46, .valid), (0x0C49, .disallowed), (0x0C4A, .valid),
   (0x0C4E, .disallowed), (0x0C55, .valid), (0x0C57, .disallowed),
   (0x0C58, .valid), (0x0C5B, .disallowed), (0x0C5C, .valid),
   (0x0C5E, .disallowed), (0x0C60, .valid), (0x0C64, .disallowed),
   (0x0C66, .valid), (0x0C70, .disallowed), (0x0C77, .valid),
   (0x0C8D, .disallowed), (0x0C8E, .valid), (0x0C91, .disallowed),
   (0x0C92, .valid), (0x0CA9, .disallowed), (0x0CAA, .valid),
   (0x0CB4, .disallowed), (0x0CB5, .valid), (0x0CBA, .disallowed),
   (0x0CBC, .valid), (0x0CC5, .disallowed), (0x0CC6, .valid),
   (0x0CC9, .disallowed), (0x0CCA, .valid), (0x0CCE, .disallowed),
   (0x0CD5, .valid), (0x0CD7, .disallowed), (0x0CDC, .valid),
   (0x0CDF, .disallowed), (0x0CE0, .valid), (0x0CE4, .disallowed),
   (0x0CE6, .valid), (0x0CF0, .disallowed), (0x0CF1, .valid),
   (0x0CF4, .disallowed), (0x0D00, .valid), (0x0D0D, .disallowed),
   (0x0D0E, .valid), (0x0D11, .disallowed), (0x0D12, .valid),
   (0x0D45, .disallowed), (0x0D46, .valid), (0x0D49, .disallowed),
   (0x0D4A, .valid), (0x0D50, .disallowed), (0x0D54, .valid),
   (0x0D64, .disallowed), (0x0D66, .valid), (0x0D80, .disallowed),
   (0x0D81, .valid), (0x0D84, .disallowed), (0x0D85, .valid),
   (0x0D97, .disallowed), (0x0D9A, .valid), (0x0DB2, .disallowed),
   (0x0DB3, .valid), (0x0DBC, .disallowed), (0x0DBD, .valid),
   (0x0DBE, .disallowed), (0x0DC0, .valid), (0x0DC7, .disallowed),
   (0x0DCA, .valid), (0x0DCB, .disallowed), (0x0DCF, .valid),
   (0x0DD5, .disallowed), (0x0DD6, .valid), (0x0DD7, .disallowed),
   (0x0DD8, .valid), (0x0DE0, .disallowed), (0x0DE6, .valid),
   (0x0DF0, .disallowed), (0x0DF2, .valid), (0x0DF5, .disallowed),
   (0x0E01, .valid), (0x0E33, .mapped [0x0E4D, 0x0E32]), (0x0E34, .valid),
   (0x0E3B, .disallowed), (0x0E3F, .valid), (0x0E5C, .disallowed),
   (0x0E81, .valid), (0x0E83, .disallowed), (0x0E84, .valid),
   (0x0E85, .disallowed), (0x0E86, .valid), (0x0E8B, .disallowed),
   (0x0E8C, .valid), (0x0EA4, .disallowed), (0x0EA5, .valid),
   (0x0EA6, .disallowed), (0x0EA7, .valid), (0x0EB3, .mapped [0x0ECD, 0x0EB2]),
   (0x0EB4, .valid), (0x0EBE, .disallowed), (0x0EC0, .valid),
   (0x0EC5, .disallowed), (0x0EC6, .valid), (0x0EC7, .disallowed),
   (0x0EC8, .valid), (0x0ECF, .disallowed), (0x0ED0, .valid),
   (0x0EDA, .disallowed), (0x0EDC, .mapped [0x0EAB, 0x0E99]), (0x0EDD, .mapped [0x0EAB, 0x0EA1]),
   (0x0EDE, .valid), (0x0EE0, .disallowed), (0x0F00, .valid),
   (0x0F0C, .mapped [0x0F0B]), (0x0F0D, .valid), (0x0F43, .mapped [0x0F42, 0x0FB7]),
   (0x0F44, .valid), (0x0F48, .disallowed), (0x0F49, .valid),
   (0x0F4D, .mapped [0x0F4C, 0x0FB7]), (0x0F4E, .valid), (0x0F52, .mapped [0x0F51, 0x0FB7]),
   (0x0F53, .valid), (0x0F57, .mapped [0x0F56, 0x0FB7]), (0x0F58, .valid),
   (0x0F5C, .mapped [0x0F5B, 0x0FB7]), (0x0F5D, .valid), (0x0F69, .mapped [0x0F40, 0x0FB5]),
   (0x0F6A, .valid), (0x0F6D, .disallowed), (0x0F71, .valid),
   (0x0F73, .mapped [0x0F71, 0x0F72]), (0x0F74, .valid), (0x0F75, .mapped [0x0F71, 0x0F74]),
   (0x0F76, .mapped [0x0FB2, 0x0F80]), (0x0F77, .mapped [0x0FB2, 0x0F71, 0x0F80]), (0x0F78, .mapped [0x0FB3, 0x0F80]),
   (0x0F79, .mapped [0x0FB3, 0x0F71, 0x0F80]), (0x0F7A, .valid), (0x0F81, .mapped [0x0F71, 0x0F80]),
   (0x0F82, .valid), (0x0F93, .mapped [0x0F92, 0x0FB7]), (0x0F94, .valid),
   (0x0F98, .disallowed), (0x0F99, .valid), (0x0F9D, .mapped [0x0F9C, 0x0FB7]),
   (0x0F9E, .valid), (0x0FA2, .mapped [0x0FA1, 0x0FB7]), (0x0FA3, .valid),
   (0x0FA7, .mapped [0x0FA6, 0x0FB7]), (0x0FA8, .valid), (0x0FAC, .mapped [0x0FAB, 0x0FB7]),
   (0x0FAD, .valid), (0x0FB9, .mapped [0x0F90, 0x0FB5]), (0x0FBA, .valid),
   (0x0FBD, .disallowed), (0x0FBE, .valid), (0x0FCD, .disallowed),
   (0x0FCE, .valid), (0x0FDB, .disallowed), (0x1000, .valid),
   (0x10A0, .shifted (7264)), (0x10C6, .disallowed), (0x10C7, .mapped [0x2D27]),
   (0x10C8, .disallowed), (0x10CD, .mapped [0x2D2D]), (0x10CE, .disallowed)]

/-- Entries 600 onwards of `idnaStarts`. -/
def idnaStartsPart1 : List (Nat × IdnaStatus) :=
  [(0x10D0, .valid), (0x10FC, .mapped [0x10DC]), (0x10FD, .valid),
   (0x115F, .ignored), (0x1161, .valid), (0x1249, .disallowed),
   (0x124A, .valid), (0x124E, .disallowed), (0x1250, .valid),
   (0x1257, .disallowed), (0x1258, .valid), (0x1259, .disallowed),
   (0x125A, .valid), (0x125E, .disallowed), (0x1260, .valid),
   (0x1289, .disallowed), (0x128A, .valid), (0x128E, .disallowed),
   (0x1290, .valid), (0x12B1, .disallowed), (0x12B2, .valid),
   (0x12B6, .disallowed), (0x12B8, .valid), (0x12BF, .disallowed),
   (0x12C0, .valid), (0x12C1, .disallowed), (0x12C2, .valid),
   (0x12C6, .disallowed), (0x12C8, .valid), (0x12D7, .disallowed),
   (0x12D8, .valid), (0x1311, .disallowed), (0x1312, .valid),
   (0x1316, .disallowed), (0x1318, .valid), (0x135B, .disallowed),
   (0x135D, .valid), (0x137D, .disallowed), (0x1380, .valid),
   (0x139A, .disallowed), (0x13A0, .valid), (0x13F6, .disallowed),
   (0x13F8, .shifted (-8)), (0x13FE, .disallowed), (0x1400, .valid),
   (0x1680, .disallowed), (0x1681, .valid), (0x169D, .disallowed),
   (0x16A0, .valid), (0x16F9, .disallowed), (0x1700, .valid),
   (0x1716, .disallowed), (0x171F, .valid), (0x1737, .disallowed),
   (0x1740, .valid), (0x1754, .disallowed), (0x1760, .valid),
   (0x176D, .disallowed), (0x176E, .valid), (0x1771, .disallowed),
   (0x1772, .valid), (0x1774, .disallowed), (0x1780, .valid),
   (0x17B4, .ignored), (0x17B6, .valid), (0x17DE, .disallowed),
   (0x17E0, .valid), (0x17EA, .disallowed), (0x17F0, .valid),
   (0x17FA, .disallowed), (0x1800, .valid), (0x180B, .ignored),
   (0x1810, .valid), (0x181A, .disallowed), (0x1820, .valid),
   (0x1879, .disallowed), (0x1880, .valid), (0x18AB, .disallowed),
   (0x18B0, .valid), (0x18F6, .disallowed), (0x1900, .valid),
   (0x191F, .disallowed), (0x1920, .valid), (0x192C, .disallowed),
   (0x1930, .valid), (0x193C, .disallowed), (0x1940, .valid),
   (0x1941, .disallowed), (0x1944, .valid), (0x196E, .disallowed),
   (0x1970, .valid), (0x1975, .disallowed), (0x1980, .valid),
   (0x19AC, .disallowed), (0x19B0, .valid), (0x19CA, .disallowed),
   (0x19D0, .valid), (0x19DB, .disallowed), (0x19DE, .valid),
   (0x1A1C, .disallowed), (0x1A1E, .valid), (0x1A5F, .disallowed),
   (0x1A60, .valid), (0x1A7D, .disallowed), (0x1A7F, .valid),
   (0x1A8A, .disallowed), (0x1A90, .valid), (0x1A9A, .disallowed),
   (0x1AA0, .valid), (0x1AAE, .disallowed), (0x1AB0, .valid),
   (0x1ADE, .disallowed), (0x1AE0, .valid), (0x1AEC, .disallowed),
   (0x1B00, .valid), (0x1B4D, .disallowed), (0x1B4E, .valid),
   (0x1BF4, .disallowed), (0x1BFC, .valid), (0x1C38, .disallowed),
   (0x1C3B, .valid), (0x1C4A, .disallowed), (0x1C4D, .valid),
   (0x1C80, .mapped [0x0432]), (0x1C81, .mapped [0x0434]), (0x1C82, .mapped [0x043E]),
   (0x1C83, .mapped [0x0441]), (0x1C84, .mapped [0x0442]), (0x1C86, .mapped [0x044A]),
   (0x1C87, .mapped [0x0463]), (0x1C88, .mapped [0xA64B]), (0x1C89, .mapped [0x1C8A]),
   (0x1C8A, .valid), (0x1C8B, .disallowed), (0x1C90, .shifted (-3008)),
   (0x1CBB, .disallowed), (0x1CBD, .shifted (-3008)), (0x1CC0, .valid),
   (0x1CC8, .disallowed), (0x1CD0, .valid), (0x1CFB, .disallowed),
   (0x1D00, .valid), (0x1D2C, .mapped [0x0061]), (0x1D2D, .mapped [0x00E6]),
   (0x1D2E, .mapped [0x0062]), (0x1D2F, .valid), (0x1D30, .shifted (-7372)),
   (0x1D32, .mapped [0x01DD]), (0x1D33, .shifted (-7372)), (0x1D3B, .valid),
   (0x1D3C, .mapped [0x006F]), (0x1D3D, .mapped [0x0223]), (0x1D3E, .mapped [0x0070]),
   (0x1D3F, .mapped [0x0072]), (0x1D40, .shifted (-7372)), (0x1D42, .mapped [0x0077]),
   (0x1D43, .mapped [0x0061]), (0x1D44, .shifted (-6900)), (0x1D46, .mapped [0x1D02]),
   (0x1D47, .mapped [0x0062]), (0x1D48, .shifted (-7396)), (0x1D4A, .mapped [0x0259]),
   (0x1D4B, .shifted (-6896)), (0x1D4D, .mapped [0x0067]), (0x1D4E, .valid),
   (0x1D4F, .mapped [0x006B]), (0x1D50, .mapped [0x006D]), (0x1D51, .mapped [0x014B]),
   (0x1D52, .mapped [0x006F]), (0x1D53, .mapped [0x0254]), (0x1D54, .shifted (-62)),
   (0x1D56, .mapped [0x0070]), (0x1D57, .shifted (-7395)), (0x1D59, .mapped [0x1D1D]),
   (0x1D5A, .mapped [0x026F]), (0x1D5B, .mapped [0x0076]), (0x1D5C, .mapped [0x1D25]),
   (0x1D5D, .shifted (-6571)), (0x1D60, .shifted (-6554)), (0x1D62, .mapped [0x0069]),
   (0x1D63, .mapped [0x0072]), (0x1D64, .shifted (-7407)), (0x1D66, .shifted (-6580)),
   (0x1D68, .mapped [0x03C1]), (0x1D69, .shifted (-6563)), (0x1D6B, .valid),
   (0x1D78, .mapped [0x043D]), (0x1D79, .valid), (0x1D9B, .mapped [0x0252]),
   (0x1D9C, .mapped [0x0063]), (0x1D9D, .mapped [0x0255]), (0x1D9E, .mapped [0x00F0]),
   (0x1D9F, .mapped [0x025C]), (0x1DA0, .mapped [0x0066]), (0x1DA1, .mapped [0x025F]),
   (0x1DA2, .mapped [0x0261]), (0x1DA3, .mapped [0x0265]), (0x1DA4, .shifted (-6972)),
   (0x1DA7, .mapped [0x1D7B]), (0x1DA8, .mapped [0x029D]), (0x1DA9, .mapped [0x026D]),
   (0x1DAA, .mapped [0x1D85]), (0x1DAB, .mapped [0x029F]), (0x1DAC, .mapped [0x0271]),
   (0x1DAD, .mapped [0x0270]), (0x1DAE, .shifted (-6972)), (0x1DB2, .mapped [0x0278]),
   (0x1DB3, .shifted (-6961)), (0x1DB5, .mapped [0x01AB]), (0x1DB6, .shifted (-6957)),
   (0x1DB8, .mapped [0x1D1C]), (0x1DB9, .shifted (-6958)), (0x1DBB, .mapped [0x007A]),
   (0x1DBC, .shifted (-6956)), (0x1DBF, .mapped [0x03B8]), (0x1DC0, .valid),
   (0x1E00, .pairs), (0x1E94, .mapped [0x1E95]), (0x1E95, .valid),
   (0x1E9A, .mapped [0x0061, 0x02BE]), (0x1E9B, .mapped [0x1E61]), (0x1E9C, .valid),
   (0x1E9E, .mapped [0x00DF]), (0x1E9F, .valid), (0x1EA0, .pairs),
   (0x1EFE, .mapped [0x1EFF]), (0x1EFF, .valid), (0x1F08, .shifted (-8)),
   (0x1F10, .valid), (0x1F16, .disallowed), (0x1F18, .shifted (-8)),
   (0x1F1E, .disallowed), (0x1F20, .valid), (0x1F28, .shifted (-8)),
   (0x1F30, .valid), (0x1F38, .shifted (-8)), (0x1F40, .valid),
   (0x1F46, .disallowed), (0x1F48, .shifted (-8)), (0x1F4E, .disallowed),
   (0x1F50, .valid), (0x1F58, .disallowed), (0x1F59, .mapped [0x1F51]),
   (0x1F5A, .disallowed), (0x1F5B, .mapped [0x1F53]), (0x1F5C, .disallowed),
   (0x1F5D, .mapped [0x1F55]), (0x1F5E, .disallowed), (0x1F5F, .mapped [0x1F57]),
   (0x1F60, .valid), (0x1F68, .shifted (-8)), (0x1F70, .valid),
   (0x1F71, .mapped [0x03AC]), (0x1F72, .valid), (0x1F73, .mapped [0x03AD]),
   (0x1F74, .valid), (0x1F75, .mapped [0x03AE]), (0x1F76, .valid),
   (0x1F77, .mapped [0x03AF]), (0x1F78, .valid), (0x1F79, .mapped [0x03CC]),
   (0x1F7A, .valid), (0x1F7B, .mapped [0x03CD]), (0x1F7C, .valid),
   (0x1F7D, .mapped [0x03CE]), (0x1F7E, .disallowed), (0x1F80, .mapped [0x1F00, 0x03B9]),
   (0x1F81, .mapped [0x1F01, 0x03B9]), (0x1F82, .mapped [0x1F02, 0x03B9]), (0x1F83, .mapped [0x1F03, 0x03B9]),
   (0x1F84, .mapped [0x1F04, 0x03B9]), (0x1F85, .mapped [0x1F05, 0x03B9]), (0x1F86, .mapped [0x1F06, 0x03B9]),
   (0x1F87, .mapped [0x1F07, 0x03B9]), (0x1F88, .mapped [0x1F00, 0x03B9]), (0x1F89, .mapped [0x1F01, 0x03B9]),
   (0x1F8A, .mapped [0x1F02, 0x03B9]), (0x1F8B, .mapped [0x1F03, 0x03B9]), (0x1F8C, .mapped [0x1F04, 0x03B9]),
   (0x1F8D, .mapped [0x1F05, 0x03B9]), (0x1F8E, .mapped [0x1F06, 0x03B9]), (0x1F8F, .mapped [0x1F07, 0x03B9]),
   (0x1F90, .mapped [0x1F20, 0x03B9]), (0x1F91, .mapped [0x1F21, 0x03B9]), (0x1F92, .mapped [0x1F22, 0x03B9]),
   (0x1F93, .mapped [0x1F23, 0x03B9]), (0x1F94, .mapped [0x1F24, 0x03B9]), (0x1F95, .mapped [0x1F25, 0x03B9]),
   (0x1F96, .mapped [0x1F26, 0x03B9]), (0x1F97, .mapped [0x1F27, 0x03B9]), (0x1F98, .mapped [0x1F20, 0x03B9]),
   (0x1F99, .mapped [0x1F21, 0x03B9]), (0x1F9A, .mapped [0x1F22, 0x03B9]), (0x1F9B, .mapped [0x1F23, 0x03B9]),
   (0x1F9C, .mapped [0x1F24, 0x03B9]), (0x1F9D, .mapped [0x1F25, 0x03B9]), (0x1F9E, .mapped [0x1F26, 0x03B9]),
   (0x1F9F, .mapped [0x1F27, 0x03B9]), (0x1FA0, .mapped [0x1F60, 0x03B9]), (0x1FA1, .mapped [0x1F61, 0x03B9]),
   (0x1FA2, .mapped [0x1F62, 0x03B9]), (0x1FA3, .mapped [0x1F63, 0x03B9]), (0x1FA4, .mapped [0x1F64, 0x03B9]),
   (0x1FA5, .mapped [0x1F65, 0x03B9]), (0x1FA6, .mapped [0x1F66, 0x03B9]), (0x1FA7, .mapped [0x1F67, 0x03B9]),
   (0x1FA8, .mapped [0x1F60, 0x03B9]), (0x1FA9, .mapped [0x1F61, 0x03B9]), (0x1FAA, .mapped [0x1F62, 0x03B9]),
   (0x1FAB, .mapped [0x1F63, 0x03B9]), (0x1FAC, .mapped [0x1F64, 0x03B9]), (0x1FAD, .mapped [0x1F65, 0x03B9]),
   (0x1FAE, .mapped [0x1F66, 0x03B9]), (0x1FAF, .mapped [0x1F67, 0x03B9]), (0x1FB0, .valid),
   (0x1FB2, .mapped [0x1F70, 0x03B9]), (0x1FB3, .mapped [0x03B1, 0x03B9]), (0x1FB4, .mapped [0x03AC, 0x03B9]),
   (0x1FB5, .disallowed), (0x1FB6, .valid), (0x1FB7, .mapped [0x1FB6, 0x03B9]),
   (0x1FB8, .shifted (-8)), (0x1FBA, .mapped [0x1F70]), (0x1FBB, .mapped [0x03AC]),
   (0x1FBC, .mapped [0x03B1, 0x03B9]), (0x1FBD, .mapped [0x0020, 0x0313]), (0x1FBE, .mapped [0x03B9]),
   (0x1FBF, .mapped [0x0020, 0x0313]), (0x1FC0, .mapped [0x0020, 0x0342]), (0x1FC1, .mapped [0x0020, 0x0308, 0x0342]),
   (0x1FC2, .mapped [0x1F74, 0x03B9]), (0x1FC3, .mapped [0x03B7, 0x03B9]), (0x1FC4, .mapped [0x03AE, 0x03B9]),
   (0x1FC5, .disallowed), (0x1FC6, .valid), (0x1FC7, .mapped [0x1FC6, 0x03B9]),
   (0x1FC8, .mapped [0x1F72]), (0x1FC9, .mapped [0x03AD]), (0x1FCA, .mapped [0x1F74]),
   (0x1FCB, .mapped [0x03AE]), (0x1FCC, .mapped [0x03B7, 0x03B9]), (0x1FCD, .mapped [0x0020, 0x0313, 0x0300]),
   (0x1FCE, .mapped [0x0020, 0x0313, 0x0301]), (0x1FCF, .mapped [0x0020, 0x0313, 0x0342]), (0x1FD0, .valid),
   (0x1FD3, .mapped [0x0390]), (0x1FD4, .disallowed), (0x1FD6, .valid),
   (0x1FD8, .shifted (-8)), (0x1FDA, .mapped [0x1F76]), (0x1FDB, .mapped [0x03AF]),
   (0x1FDC, .disallowed), (0x1FDD, .mapped [0x0020, 0x0314, 0x0300]), (0x1FDE, .mapped [0x0020, 0x0314, 0x0301]),
   (0x1FDF, .mapped [0x0020, 0x0314, 0x0342]), (0x1FE0, .valid), (0x1FE3, .mapped [0x03B0]),
   (0x1FE4, .valid), (0x1FE8, .shifted (-8)), (0x1FEA, .mapped [0x1F7A]),
   (0x1FEB, .mapped [0x03CD]), (0x1FEC, .mapped [0x1FE5]), (0x1FED, .mapped [0x0020, 0x0308, 0x0300]),
   (0x1FEE, .mapped [0x0020, 0x0308, 0x0301]), (0x1FEF, .mapped [0x0060]), (0x1FF0, .disallowed),
   (0x1FF2, .mapped [0x1F7C, 0x03B9]), (0x1FF3, .mapped [0x03C9, 0x03B9]), (0x1FF4, .mapped [0x03CE, 0x03B9]),
   (0x1FF5, .disallowed), (0x1FF6, .valid), (0x1FF7, .mapped [0x1FF6, 0x03B9]),
   (0x1FF8, .mapped [0x1F78]), (0x1FF9, .mapped [0x03CC]), (0x1FFA, .mapped [0x1F7C]),
   (0x1FFB, .mapped [0x03CE]), (0x1FFC, .mapped [0x03C9, 0x03B9]), (0x1FFD, .mapped [0x0020, 0x0301]),
   (0x1FFE, .mapped [0x0020, 0x0314]), (0x1FFF, .disallowed), (0x2000, .mapped [0x0020]),
   (0x200B, .ignored), (0x200C, .valid), (0x200E, .disallowed),
   (0x2010, .valid), (0x2011, .mapped [0x2010]), (0x2012, .valid),
   (0x2017, .mapped [0x0020, 0x0333]), (0x2018, .valid), (0x2024, .disallowed),
   (0x2027, .valid), (0x2028, .disallowed), (0x202F, .mapped [0x0020]),
   (0x2030, .valid), (0x2033, .mapped [0x2032, 0x2032]), (0x2034, .mapped [0x2032, 0x2032, 0x2032]),
   (0x2035, .valid), (0x2036, .mapped [0x2035, 0x2035]), (0x2037, .mapped [0x2035, 0x2035, 0x2035]),
   (0x2038, .valid), (0x203C, .mapped [0x0021, 0x0021]), (0x203D, .valid),
   (0x203E, .mapped [0x0020, 0x0305]), (0x203F, .valid), (0x2047, .mapped [0x003F, 0x003F]),
   (0x2048, .mapped [0x003F, 0x0021]), (0x2049, .mapped [0x0021, 0x003F]), (0x204A, .valid),
   (0x2057, .mapped [0x2032, 0x2032, 0x2032, 0x2032]), (0x2058, .valid), (0x205F, .mapped [0x0020]),
   (0x2060, .ignored), (0x2065, .disallowed), (0x206A, .ignored),
   (0x2070, .mapped [0x0030]), (0x2071, .mapped [0x0069]), (0x2072, .disallowed),
   (0x2074, .shifted (-8256)), (0x207A, .mapped [0x002B]), (0x207B, .mapped [0x2212]),
   (0x207C, .mapped [0x003D]), (0x207D, .shifted (-8277)), (0x207F, .mapped [0x006E]),
   (0x2080, .shifted (-8272)), (0x208A, .mapped [0x002B]), (0x208B, .mapped [0x2212]),
   (0x208C, .mapped [0x003D]), (0x208D, .shifted (-8293)), (0x208F, .disallowed),
   (0x2090, .mapped [0x0061]), (0x2091, .mapped [0x0065]), (0x2092, .mapped [0x006F]),
   (0x2093, .mapped [0x0078]), (0x2094, .mapped [0x0259]), (0x2095, .mapped [0x0068]),
   (0x2096, .shifted (-8235)), (0x209A, .mapped [0x0070]), (0x209B, .shifted (-8232)),
   (0x209D, .disallowed), (0x20A0, .valid), (0x20A8, .mapped [0x0072, 0x0073]),
   (0x20A9, .valid), (0x20C2, .disallowed), (0x20D0, .valid),
   (0x20F1, .disallowed), (0x2100, .mapped [0x0061, 0x002F, 0x0063]), (0x2101, .mapped [0x0061, 0x002F, 0x0073]),
   (0x2102, .mapped [0x0063]), (0x2103, .mapped [0x00B0, 0x0063]), (0x2104, .valid),
   (0x2105, .mapped [0x0063, 0x002F, 0x006F]), (0x2106, .mapped [0x0063, 0x002F, 0x0075]), (0x2107, .mapped [0x025B]),
   (0x2108, .valid), (0x2109, .mapped [0x00B0, 0x0066]), (0x210A, .mapped [0x0067]),
   (0x210B, .mapped [0x0068]), (0x210F, .mapped [0x0127]), (0x2110, .mapped [0x0069]),
   (0x2112, .mapped [0x006C]), (0x2114, .valid), (0x2115, .mapped [0x006E]),
   (0x2116, .mapped [0x006E, 0x006F]), (0x2117, .valid), (0x2119, .shifted (-8361)),
   (0x211B, .mapped [0x0072]), (0x211E, .valid), (0x2120, .mapped [0x0073, 0x006D]),
   (0x2121, .mapped [0x0074, 0x0065, 0x006C]), (0x2122, .mapped [0x0074, 0x006D]), (0x2123, .valid),
   (0x2124, .mapped [0x007A]), (0x2125, .valid), (0x2126, .mapped [0x03C9]),
   (0x2127, .valid), (0x2128, .mapped [0x007A]), (0x2129, .valid),
   (0x212A, .mapped [0x006B]), (0x212B, .mapped [0x00E5]), (0x212C, .shifted (-8394)),
   (0x212E, .valid), (0x212F, .mapped [0x0065]), (0x2131, .mapped [0x0066]),
   (0x2132, .mapped [0x214E]), (0x2133, .mapped [0x006D]), (0x2134, .mapped [0x006F]),
   (0x2135, .shifted (-7013)), (0x2139, .mapped [0x0069]), (0x213A, .valid),
   (0x213B, .mapped [0x0066, 0x0061, 0x0078]), (0x213C, .mapped [0x03C0]), (0x213D, .mapped [0x03B3]),
   (0x213F, .mapped [0x03C0]), (0x2140, .mapped [0x2211]), (0x2141, .valid),
   (0x2145, .mapped [0x0064]), (0x2147, .mapped [0x0065]), (0x2148, .shifted (-8415)),
   (0x214A, .valid), (0x2150, .mapped [0x0031, 0x2044, 0x0037]), (0x2151, .mapped [0x0031, 0x2044, 0x0039]),
   (0x2152, .mapped [0x0031, 0x2044, 0x0031, 0x0030]), (0x2153, .mapped [0x0031, 0x2044, 0x0033]), (0x2154, .mapped [0x0032, 0x2044, 0x0033]),
   (0x2155, .mapped [0x0031, 0x2044, 0x0035]), (0x2156, .mapped [0x0032, 0x2044, 0x0035]), (0x2157, .mapped [0x0033, 0x2044, 0x0035]),
   (0x2158, .mapped [0x0034, 0x2044, 0x0035]), (0x2159, .mapped [0x0031, 0x2044, 0x0036]), (0x215A, .mapped [0x0035, 0x2044, 0x0036]),
   (0x215B, .mapped [0x0031, 0x2044, 0x0038]), (0x215C, .mapped [0x0033, 0x2044, 0x0038]), (0x215D, .mapped [0x0035, 0x2044, 0x0038]),
   (0x215E, .mapped [0x0037, 0x2044, 0x0038]), (0x215F, .mapped [0x0031, 0x2044]), (0x2160, .mapped [0x0069]),
   (0x2161, .mapped [0x0069, 0x0069]), (0x2162, .mapped [0x0069, 0x0069, 0x0069]), (0x2163, .mapped [0x0069, 0x0076]),
   (0x2164, .mapped [0x0076]), (0x2165, .mapped [0x0076, 0x0069]), (0x2166, .mapped [0x0076, 0x0069, 0x0069]),
   (0x2167, .mapped [0x0076, 0x0069, 0x0069, 0x0069]), (0x2168, .mapped [0x0069, 0x0078]), (0x2169, .mapped [0x0078]),
   (0x216A, .mapped [0x0078, 0x0069]), (0x216B, .mapped [0x0078, 0x0069, 0x0069]), (0x216C, .mapped [0x006C]),
   (0x216D, .shifted (-8458)), (0x216F, .mapped [0x006D]), (0x2170, .mapped [0x0069]),
   (0x2171, .mapped [0x0069, 0x0069]), (0x2172, .mapped [0x0069, 0x0069, 0x0069]), (0x2173, .mapped [0x0069, 0x0076]),
   (0x2174, .mapped [0x0076]), (0x2175, .mapped [0x0076, 0x0069]), (0x2176, .mapped [0x0076, 0x0069, 0x0069]),
   (0x2177, .mapped [0x0076, 0x0069, 0x0069, 0x0069]), (0x2178, .mapped [0x0069, 0x0078]), (0x2179, .mapped [0x0078]),
   (0x217A, .mapped [0x0078, 0x0069]), (0x217B, .mapped [0x0078, 0x0069, 0x0069]), (0x217C, .mapped [0x006C]),
   (0x217D, .shifted (-8474)), (0x217F, .mapped [0x006D]), (0x2180, .valid),
   (0x2183, .mapped [0x2184]), (0x2184, .valid), (0x2189, .mapped [0x0030, 0x2044, 0x0033]),
   (0x218A, .valid), (0x218C, .disallowed), (0x2190, .valid),
   (0x222C, .mapped [0x222B, 0x222B]), (0x222D, .mapped [0x222B, 0x222B, 0x222B]), (0x222E, .valid),
   (0x222F, .mapped [0x222E, 0x222E]), (0x2230, .mapped [0x222E, 0x222E, 0x222E]), (0x2231, .valid),
   (0x2329, .shifted (3295)), (0x232B, .valid), (0x242A, .disallowed),
   (0x2440, .valid), (0x244B, .disallowed), (0x2460, .shifted (-9263)),
   (0x2469, .mapped [0x0031, 0x0030]), (0x246A, .mapped [0x0031, 0x0031]), (0x246B, .mapped [0x0031, 0x0032]),
   (0x246C, .mapped [0x0031, 0x0033]), (0x246D, .mapped [0x0031, 0x0034]), (0x246E, .mapped [0x0031, 0x0035]),
   (0x246F, .mapped [0x0031, 0x0036]), (0x2470, .mapped [0x0031, 0x0037]), (0x2471, .mapped [0x0031, 0x0038]),
   (0x2472, .mapped [0x0031, 0x0039]), (0x2473, .mapped [0x0032, 0x0030]), (0x2474, .mapped [0x0028, 0x0031, 0x0029]),
   (0x2475, .mapped [0x0028, 0x0032, 0x0029]), (0x2476, .mapped [0x0028, 0x0033, 0x0029]), (0x2477, .mapped [0x0028, 0x0034, 0x0029]),
   (0x2478, .mapped [0x0028, 0x0035, 0x0029]), (0x2479, .mapped [0x0028, 0x0036, 0x0029]), (0x247A, .mapped [0x0028, 0x0037, 0x0029]),
   (0x247B, .mapped [0x0028, 0x0038, 0x0029]), (0x247C, .mapped [0x0028, 0x0039, 0x0029]), (0x247D, .mapped [0x0028, 0x0031, 0x0030, 0x0029]),
   (0x247E, .mapped [0x0028, 0x0031, 0x0031, 0x0029]), (0x247F, .mapped [0x0028, 0x0031, 0x0032, 0x0029]), (0x2480, .mapped [0x0028, 0x0031, 0x0033, 0x0029]),
   (0x2481, .mapped [0x0028, 0x0031, 0x0034, 0x0029]), (0x2482, .mapped [0x0028, 0x0031, 0x0035, 0x0029]), (0x2483, .mapped [0x0028, 0x0031, 0x0036, 0x0029]),
   (0x2484, .mapped [0x0028, 0x0031, 0x0037, 0x0029]), (0x2485, .mapped [0x0028, 0x0031, 0x0038, 0x0029]), (0x2486, .mapped [0x0028, 0x0031, 0x0039, 0x0029]),
   (0x2487, .mapped [0x0028, 0x0032, 0x0030, 0x0029]), (0x2488, .disallowed), (0x249C, .mapped [0x0028, 0x0061, 0x0029]),
   (0x249D, .mapped [0x0028, 0x0062, 0x0029]), (0x249E, .mapped [0x0028, 0x0063, 0x0029]), (0x249F, .mapped [0x0028, 0x0064, 0x0029])]

/-- Entries 1200 onwards of `idnaStarts`. -/
def idnaStartsPart2 : List (Nat × IdnaStatus) :=
  [(0x24A0, .mapped [0x0028, 0x0065, 0x0029]), (0x24A1, .mapped [0x0028, 0x0066, 0x0029]), (0x24A2, .mapped [0x0028, 0x0067, 0x0029]),
   (0x24A3, .mapped [0x0028, 0x0068, 0x0029]), (0x24A4, .mapped [0x0028, 0x0069, 0x0029]), (0x24A5, .mapped [0x0028, 0x006A, 0x0029]),
   (0x24A6, .mapped [0x0028, 0x006B, 0x0029]), (0x24A7, .mapped [0x0028, 0x006C, 0x0029]), (0x24A8, .mapped [0x0028, 0x006D, 0x0029]),
   (0x24A9, .mapped [0x0028, 0x006E, 0x0029]), (0x24AA, .mapped [0x0028, 0x006F, 0x0029]), (0x24AB, .mapped [0x0028, 0x0070, 0x0029]),
   (0x24AC, .mapped [0x0028, 0x0071, 0x0029]), (0x24AD, .mapped [0x0028, 0x0072, 0x0029]), (0x24AE, .mapped [0x0028, 0x0073, 0x0029]),
   (0x24AF, .mapped [0x0028, 0x0074, 0x0029]), (0x24B0, .mapped [0x0028, 0x0075, 0x0029]), (0x24B1, .mapped [0x0028, 0x0076, 0x0029]),
   (0x24B2, .mapped [0x0028, 0x0077, 0x0029]), (0x24B3, .mapped [0x0028, 0x0078, 0x0029]), (0x24B4, .mapped [0x0028, 0x0079, 0x0029]),
   (0x24B5, .mapped [0x0028, 0x007A, 0x0029]), (0x24B6, .shifted (-9301)), (0x24D0, .shifted (-9327)),
   (0x24EA, .mapped [0x0030]), (0x24EB, .valid), (0x2A0C, .mapped [0x222B, 0x222B, 0x222B, 0x222B]),
   (0x2A0D, .valid), (0x2A74, .mapped [0x003A, 0x003A, 0x003D]), (0x2A75, .mapped [0x003D, 0x003D]),
   (0x2A76, .mapped [0x003D, 0x003D, 0x003D]), (0x2A77, .valid), (0x2ADC, .mapped [0x2ADD, 0x0338]),
   (0x2ADD, .valid), (0x2B74, .disallowed), (0x2B76, .valid),
   (0x2C00, .shifted (48)), (0x2C30, .valid), (0x2C60, .mapped [0x2C61]),
   (0x2C61, .valid), (0x2C62, .mapped [0x026B]), (0x2C63, .mapped [0x1D7D]),
   (0x2C64, .mapped [0x027D]), (0x2C65, .valid), (0x2C67, .pairs),
   (0x2C6D, .mapped [0x0251]), (0x2C6E, .mapped [0x0271]), (0x2C6F, .mapped [0x0250]),
   (0x2C70, .mapped [0x0252]), (0x2C71, .valid), (0x2C72, .mapped [0x2C73]),
   (0x2C73, .valid), (0x2C75, .mapped [0x2C76]), (0x2C76, .valid),
   (0x2C7C, .mapped [0x006A]), (0x2C7D, .mapped [0x0076]), (0x2C7E, .shifted (-10815)),
   (0x2C80, .pairs), (0x2CE2, .mapped [0x2CE3]), (0x2CE3, .valid),
   (0x2CEB, .mapped [0x2CEC]), (0x2CEC, .valid), (0x2CED, .mapped [0x2CEE]),
   (0x2CEE, .valid), (0x2CF2, .mapped [0x2CF3]), (0x2CF3, .valid),
   (0x2CF4, .disallowed), (0x2CF9, .valid), (0x2D26, .disallowed),
   (0x2D27, .valid), (0x2D28, .disallowed), (0x2D2D, .valid),
   (0x2D2E, .disallowed), (0x2D30, .valid), (0x2D68, .disallowed),
   (0x2D6F, .mapped [0x2D61]), (0x2D70, .valid), (0x2D71, .disallowed),
   (0x2D7F, .valid), (0x2D97, .disallowed), (0x2DA0, .valid),
   (0x2DA7, .disallowed), (0x2DA8, .valid), (0x2DAF, .disallowed),
   (0x2DB0, .valid), (0x2DB7, .disallowed), (0x2DB8, .valid),
   (0x2DBF, .disallowed), (0x2DC0, .valid), (0x2DC7, .disallowed),
   (0x2DC8, .valid), (0x2DCF, .disallowed), (0x2DD0, .valid),
   (0x2DD7, .disallowed), (0x2DD8, .valid), (0x2DDF, .disallowed),
   (0x2DE0, .valid), (0x2E5E, .disallowed), (0x2E80, .valid),
   (0x2E9A, .disallowed), (0x2E9B, .valid), (0x2E9F, .mapped [0x6BCD]),
   (0x2EA0, .valid), (0x2EF3, .mapped [0x9F9F]), (0x2EF4, .disallowed),
   (0x2F00, .mapped [0x4E00]), (0x2F01, .mapped [0x4E28]), (0x2F02, .mapped [0x4E36]),
   (0x2F03, .mapped [0x4E3F]), (0x2F04, .mapped [0x4E59]), (0x2F05, .mapped [0x4E85]),
   (0x2F06, .mapped [0x4E8C]), (0x2F07, .mapped [0x4EA0]), (0x2F08, .mapped [0x4EBA]),
   (0x2F09, .mapped [0x513F]), (0x2F0A, .mapped [0x5165]), (0x2F0B, .mapped [0x516B]),
   (0x2F0C, .mapped [0x5182]), (0x2F0D, .mapped [0x5196]), (0x2F0E, .mapped [0x51AB]),
   (0x2F0F, .mapped [0x51E0]), (0x2F10, .mapped [0x51F5]), (0x2F11, .mapped [0x5200]),
   (0x2F12, .mapped [0x529B]), (0x2F13, .mapped [0x52F9]), (0x2F14, .mapped [0x5315]),
   (0x2F15, .mapped [0x531A]), (0x2F16, .mapped [0x5338]), (0x2F17, .mapped [0x5341]),
   (0x2F18, .mapped [0x535C]), (0x2F19, .mapped [0x5369]), (0x2F1A, .mapped [0x5382]),
   (0x2F1B, .mapped [0x53B6]), (0x2F1C, .mapped [0x53C8]), (0x2F1D, .mapped [0x53E3]),
   (0x2F1E, .mapped [0x56D7]), (0x2F1F, .mapped [0x571F]), (0x2F20, .mapped [0x58EB]),
   (0x2F21, .mapped [0x5902]), (0x2F22, .mapped [0x590A]), (0x2F23, .mapped [0x5915]),
   (0x2F24, .mapped [0x5927]), (0x2F25, .mapped [0x5973]), (0x2F26, .mapped [0x5B50]),
   (0x2F27, .mapped [0x5B80]), (0x2F28, .mapped [0x5BF8]), (0x2F29, .mapped [0x5C0F]),
   (0x2F2A, .mapped [0x5C22]), (0x2F2B, .mapped [0x5C38]), (0x2F2C, .mapped [0x5C6E]),
   (0x2F2D, .mapped [0x5C71]), (0x2F2E, .mapped [0x5DDB]), (0x2F2F, .mapped [0x5DE5]),
   (0x2F30, .mapped [0x5DF1]), (0x2F31, .mapped [0x5DFE]), (0x2F32, .mapped [0x5E72]),
   (0x2F33, .mapped [0x5E7A]), (0x2F34, .mapped [0x5E7F]), (0x2F35, .mapped [0x5EF4]),
   (0x2F36, .mapped [0x5EFE]), (0x2F37, .mapped [0x5F0B]), (0x2F38, .mapped [0x5F13]),
   (0x2F39, .mapped [0x5F50]), (0x2F3A, .mapped [0x5F61]), (0x2F3B, .mapped [0x5F73]),
   (0x2F3C, .mapped [0x5FC3]), (0x2F3D, .mapped [0x6208]), (0x2F3E, .mapped [0x6236]),
   (0x2F3F, .mapped [0x624B]), (0x2F40, .mapped [0x652F]), (0x2F41, .mapped [0x6534]),
   (0x2F42, .mapped [0x6587]), (0x2F43, .mapped [0x6597]), (0x2F44, .mapped [0x65A4]),
   (0x2F45, .mapped [0x65B9]), (0x2F46, .mapped [0x65E0]), (0x2F47, .mapped [0x65E5]),
   (0x2F48, .mapped [0x66F0]), (0x2F49, .mapped [0x6708]), (0x2F4A, .mapped [0x6728]),
   (0x2F4B, .mapped [0x6B20]), (0x2F4C, .mapped [0x6B62]), (0x2F4D, .mapped [0x6B79]),
   (0x2F4E, .mapped [0x6BB3]), (0x2F4F, .mapped [0x6BCB]), (0x2F50, .mapped [0x6BD4]),
   (0x2F51, .mapped [0x6BDB]), (0x2F52, .mapped [0x6C0F]), (0x2F53, .mapped [0x6C14]),
   (0x2F54, .mapped [0x6C34]), (0x2F55, .mapped [0x706B]), (0x2F56, .mapped [0x722A]),
   (0x2F57, .mapped [0x7236]), (0x2F58, .mapped [0x723B]), (0x2F59, .mapped [0x723F]),
   (0x2F5A, .mapped [0x7247]), (0x2F5B, .mapped [0x7259]), (0x2F5C, .mapped [0x725B]),
   (0x2F5D, .mapped [0x72AC]), (0x2F5E, .mapped [0x7384]), (0x2F5F, .mapped [0x7389]),
   (0x2F60, .mapped [0x74DC]), (0x2F61, .mapped [0x74E6]), (0x2F62, .mapped [0x7518]),
   (0x2F63, .mapped [0x751F]), (0x2F64, .mapped [0x7528]), (0x2F65, .mapped [0x7530]),
   (0x2F66, .mapped [0x758B]), (0x2F67, .mapped [0x7592]), (0x2F68, .mapped [0x7676]),
   (0x2F69, .mapped [0x767D]), (0x2F6A, .mapped [0x76AE]), (0x2F6B, .mapped [0x76BF]),
   (0x2F6C, .mapped [0x76EE]), (0x2F6D, .mapped [0x77DB]), (0x2F6E, .mapped [0x77E2]),
   (0x2F6F, .mapped [0x77F3]), (0x2F70, .mapped [0x793A]), (0x2F71, .mapped [0x79B8]),
   (0x2F72, .mapped [0x79BE]), (0x2F73, .mapped [0x7A74]), (0x2F74, .mapped [0x7ACB]),
   (0x2F75, .mapped [0x7AF9]), (0x2F76, .mapped [0x7C73]), (0x2F77, .mapped [0x7CF8]),
   (0x2F78, .mapped [0x7F36]), (0x2F79, .mapped [0x7F51]), (0x2F7A, .mapped [0x7F8A]),
   (0x2F7B, .mapped [0x7FBD]), (0x2F7C, .mapped [0x8001]), (0x2F7D, .mapped [0x800C]),
   (0x2F7E, .mapped [0x8012]), (0x2F7F, .mapped [0x8033]), (0x2F80, .mapped [0x807F]),
   (0x2F81, .mapped [0x8089]), (0x2F82, .mapped [0x81E3]), (0x2F83, .mapped [0x81EA]),
   (0x2F84, .mapped [0x81F3]), (0x2F85, .mapped [0x81FC]), (0x2F86, .mapped [0x820C]),
   (0x2F87, .mapped [0x821B]), (0x2F88, .mapped [0x821F]), (0x2F89, .mapped [0x826E]),
   (0x2F8A, .mapped [0x8272]), (0x2F8B, .mapped [0x8278]), (0x2F8C, .mapped [0x864D]),
   (0x2F8D, .mapped [0x866B]), (0x2F8E, .mapped [0x8840]), (0x2F8F, .mapped [0x884C]),
   (0x2F90, .mapped [0x8863]), (0x2F91, .mapped [0x897E]), (0x2F92, .mapped [0x898B]),
   (0x2F93, .mapped [0x89D2]), (0x2F94, .mapped [0x8A00]), (0x2F95, .mapped [0x8C37]),
   (0x2F96, .mapped [0x8C46]), (0x2F97, .mapped [0x8C55]), (0x2F98, .mapped [0x8C78]),
   (0x2F99, .mapped [0x8C9D]), (0x2F9A, .mapped [0x8D64]), (0x2F9B, .mapped [0x8D70]),
   (0x2F9C, .mapped [0x8DB3]), (0x2F9D, .mapped [0x8EAB]), (0x2F9E, .mapped [0x8ECA]),
   (0x2F9F, .mapped [0x8F9B]), (0x2FA0, .mapped [0x8FB0]), (0x2FA1, .mapped [0x8FB5]),
   (0x2FA2, .mapped [0x9091]), (0x2FA3, .mapped [0x9149]), (0x2FA4, .mapped [0x91C6]),
   (0x2FA5, .mapped [0x91CC]), (0x2FA6, .mapped [0x91D1]), (0x2FA7, .mapped [0x9577]),
   (0x2FA8, .mapped [0x9580]), (0x2FA9, .mapped [0x961C]), (0x2FAA, .mapped [0x96B6]),
   (0x2FAB, .mapped [0x96B9]), (0x2FAC, .mapped [0x96E8]), (0x2FAD, .mapped [0x9751]),
   (0x2FAE, .mapped [0x975E]), (0x2FAF, .mapped [0x9762]), (0x2FB0, .mapped [0x9769]),
   (0x2FB1, .mapped [0x97CB]), (0x2FB2, .mapped [0x97ED]), (0x2FB3, .mapped [0x97F3]),
   (0x2FB4, .mapped [0x9801]), (0x2FB5, .mapped [0x98A8]), (0x2FB6, .mapped [0x98DB]),
   (0x2FB7, .mapped [0x98DF]), (0x2FB8, .mapped [0x9996]), (0x2FB9, .mapped [0x9999]),
   (0x2FBA, .mapped [0x99AC]), (0x2FBB, .mapped [0x9AA8]), (0x2FBC, .mapped [0x9AD8]),
   (0x2FBD, .mapped [0x9ADF]), (0x2FBE, .mapped [0x9B25]), (0x2FBF, .mapped [0x9B2F]),
   (0x2FC0, .mapped [0x9B32]), (0x2FC1, .mapped [0x9B3C]), (0x2FC2, .mapped [0x9B5A]),
   (0x2FC3, .mapped [0x9CE5]), (0x2FC4, .mapped [0x9E75]), (0x2FC5, .mapped [0x9E7F]),
   (0x2FC6, .mapped [0x9EA5]), (0x2FC7, .mapped [0x9EBB]), (0x2FC8, .mapped [0x9EC3]),
   (0x2FC9, .mapped [0x9ECD]), (0x2FCA, .mapped [0x9ED1]), (0x2FCB, .mapped [0x9EF9]),
   (0x2FCC, .mapped [0x9EFD]), (0x2FCD, .mapped [0x9F0E]), (0x2FCE, .mapped [0x9F13]),
   (0x2FCF, .mapped [0x9F20]), (0x2FD0, .mapped [0x9F3B]), (0x2FD1, .mapped [0x9F4A]),
   (0x2FD2, .mapped [0x9F52]), (0x2FD3, .mapped [0x9F8D]), (0x2FD4, .mapped [0x9F9C]),
   (0x2FD5, .mapped [0x9FA0]), (0x2FD6, .disallowed), (0x3000, .mapped [0x0020]),
   (0x3001, .valid), (0x3002, .mapped [0x002E]), (0x3003, .valid),
   (0x3036, .mapped [0x3012]), (0x3037, .valid), (0x3038, .mapped [0x5341]),
   (0x3039, .shifted (8971)), (0x303B, .valid), (0x3040, .disallowed),
   (0x3041, .valid), (0x3097, .disallowed), (0x3099, .valid),
   (0x309B, .mapped [0x0020, 0x3099]), (0x309C, .mapped [0x0020, 0x309A]), (0x309D, .valid),
   (0x309F, .mapped [0x3088, 0x308A]), (0x30A0, .valid), (0x30FF, .mapped [0x30B3, 0x30C8]),
   (0x3100, .disallowed), (0x3105, .valid), (0x3130, .disallowed),
   (0x3131, .shifted (-8241)), (0x3133, .mapped [0x11AA]), (0x3134, .mapped [0x1102]),
   (0x3135, .shifted (-8073)), (0x3137, .shifted (-8244)), (0x313A, .shifted (-8074)),
   (0x3140, .mapped [0x111A]), (0x3141, .shifted (-8251)), (0x3144, .mapped [0x1121]),
   (0x3145, .shifted (-8252)), (0x314F, .shifted (-8174)), (0x3164, .ignored),
   (0x3165, .shifted (-8273)), (0x3167, .shifted (-8096)), (0x3169, .mapped [0x11CC]),
   (0x316A, .mapped [0x11CE]), (0x316B, .mapped [0x11D3]), (0x316C, .mapped [0x11D7]),
   (0x316D, .mapped [0x11D9]), (0x316E, .mapped [0x111C]), (0x316F, .mapped [0x11DD]),
   (0x3170, .mapped [0x11DF]), (0x3171, .shifted (-8276)), (0x3173, .mapped [0x1120]),
   (0x3174, .shifted (-8274)), (0x3176, .mapped [0x1127]), (0x3177, .mapped [0x1129]),
   (0x3178, .shifted (-8269)), (0x317D, .mapped [0x1132]), (0x317E, .mapped [0x1136]),
   (0x317F, .mapped [0x1140]), (0x3180, .mapped [0x1147]), (0x3181, .mapped [0x114C]),
   (0x3182, .shifted (-8081)), (0x3184, .shifted (-8237)), (0x3187, .shifted (-8195)),
   (0x3189, .mapped [0x1188]), (0x318A, .shifted (-8185)), (0x318C, .mapped [0x1194]),
   (0x318D, .mapped [0x119E]), (0x318E, .mapped [0x11A1]), (0x318F, .disallowed),
   (0x3190, .valid), (0x3192, .mapped [0x4E00]), (0x3193, .mapped [0x4E8C]),
   (0x3194, .mapped [0x4E09]), (0x3195, .mapped [0x56DB]), (0x3196, .mapped [0x4E0A]),
   (0x3197, .mapped [0x4E2D]), (0x3198, .mapped [0x4E0B]), (0x3199, .mapped [0x7532]),
   (0x319A, .mapped [0x4E59]), (0x319B, .mapped [0x4E19]), (0x319C, .mapped [0x4E01]),
   (0x319D, .mapped [0x5929]), (0x319E, .mapped [0x5730]), (0x319F, .mapped [0x4EBA]),
   (0x31A0, .valid), (0x31E6, .disallowed), (0x31F0, .valid),
   (0x3200, .mapped [0x0028, 0x1100, 0x0029]), (0x3201, .mapped [0x0028, 0x1102, 0x0029]), (0x3202, .mapped [0x0028, 0x1103, 0x0029]),
   (0x3203, .mapped [0x0028, 0x1105, 0x0029]), (0x3204, .mapped [0x0028, 0x1106, 0x0029]), (0x3205, .mapped [0x0028, 0x1107, 0x0029]),
   (0x3206, .mapped [0x0028, 0x1109, 0x0029]), (0x3207, .mapped [0x0028, 0x110B, 0x0029]), (0x3208, .mapped [0x0028, 0x110C, 0x0029]),
   (0x3209, .mapped [0x0028, 0x110E, 0x0029]), (0x320A, .mapped [0x0028, 0x110F, 0x0029]), (0x320B, .mapped [0x0028, 0x1110, 0x0029]),
   (0x320C, .mapped [0x0028, 0x1111, 0x0029]), (0x320D, .mapped [0x0028, 0x1112, 0x0029]), (0x320E, .mapped [0x0028, 0xAC00, 0x0029]),
   (0x320F, .mapped [0x0028, 0xB098, 0x0029]), (0x3210, .mapped [0x0028, 0xB2E4, 0x0029]), (0x3211, .mapped [0x0028, 0xB77C, 0x0029]),
   (0x3212, .mapped [0x0028, 0xB9C8, 0x0029]), (0x3213, .mapped [0x0028, 0xBC14, 0x0029]), (0x3214, .mapped [0x0028, 0xC0AC, 0x0029]),
   (0x3215, .mapped [0x0028, 0xC544, 0x0029]), (0x3216, .mapped [0x0028, 0xC790, 0x0029]), (0x3217, .mapped [0x0028, 0xCC28, 0x0029]),
   (0x3218, .mapped [0x0028, 0xCE74, 0x0029]), (0x3219, .mapped [0x0028, 0xD0C0, 0x0029]), (0x321A, .mapped [0x0028, 0xD30C, 0x0029]),
   (0x321B, .mapped [0x0028, 0xD558, 0x0029]), (0x321C, .mapped [0x0028, 0xC8FC, 0x0029]), (0x321D, .mapped [0x0028, 0xC624, 0xC804, 0x0029]),
   (0x321E, .mapped [0x0028, 0xC624, 0xD6C4, 0x0029]), (0x321F, .disallowed), (0x3220, .mapped [0x0028, 0x4E00, 0x0029]),
   (0x3221, .mapped [0x0028, 0x4E8C, 0x0029]), (0x3222, .mapped [0x0028, 0x4E09, 0x0029]), (0x3223, .mapped [0x0028, 0x56DB, 0x0029]),
   (0x3224, .mapped [0x0028, 0x4E94, 0x0029]), (0x3225, .mapped [0x0028, 0x516D, 0x0029]), (0x3226, .mapped [0x0028, 0x4E03, 0x0029]),
   (0x3227, .mapped [0x0028, 0x516B, 0x0029]), (0x3228, .mapped [0x0028, 0x4E5D, 0x0029]), (0x3229, .mapped [0x0028, 0x5341, 0x0029]),
   (0x322A, .mapped [0x0028, 0x6708, 0x0029]), (0x322B, .mapped [0x0028, 0x706B, 0x0029]), (0x322C, .mapped [0x0028, 0x6C34, 0x0029]),
   (0x322D, .mapped [0x0028, 0x6728, 0x0029]), (0x322E, .mapped [0x0028, 0x91D1, 0x0029]), (0x322F, .mapped [0x0028, 0x571F, 0x0029]),
   (0x3230, .mapped [0x0028, 0x65E5, 0x0029]), (0x3231, .mapped [0x0028, 0x682A, 0x0029]), (0x3232, .mapped [0x0028, 0x6709, 0x0029]),
   (0x3233, .mapped [0x0028, 0x793E, 0x0029]), (0x3234, .mapped [0x0028, 0x540D, 0x0029]), (0x3235, .mapped [0x0028, 0x7279, 0x0029]),
   (0x3236, .mapped [0x0028, 0x8CA1, 0x0029]), (0x3237, .mapped [0x0028, 0x795D, 0x0029]), (0x3238, .mapped [0x0028, 0x52B4, 0x0029]),
   (0x3239, .mapped [0x0028, 0x4EE3, 0x0029]), (0x323A, .mapped [0x0028, 0x547C, 0x0029]), (0x323B, .mapped [0x0028, 0x5B66, 0x0029]),
   (0x323C, .mapped [0x0028, 0x76E3, 0x0029]), (0x323D, .mapped [0x0028, 0x4F01, 0x0029]), (0x323E, .mapped [0x0028, 0x8CC7, 0x0029]),
   (0x323F, .mapped [0x0028, 0x5354, 0x0029]), (0x3240, .mapped [0x0028, 0x796D, 0x0029]), (0x3241, .mapped [0x0028, 0x4F11, 0x0029]),
   (0x3242, .mapped [0x0028, 0x81EA, 0x0029]), (0x3243, .mapped [0x0028, 0x81F3, 0x0029]), (0x3244, .mapped [0x554F]),
   (0x3245, .mapped [0x5E7C]), (0x3246, .mapped [0x6587]), (0x3247, .mapped [0x7B8F]),
   (0x3248, .valid), (0x3250, .mapped [0x0070, 0x0074, 0x0065]), (0x3251, .mapped [0x0032, 0x0031]),
   (0x3252, .mapped [0x0032, 0x0032]), (0x3253, .mapped [0x0032, 0x0033]), (0x3254, .mapped [0x0032, 0x0034]),
   (0x3255, .mapped [0x0032, 0x0035]), (0x3256, .mapped [0x0032, 0x0036]), (0x3257, .mapped [0x0032, 0x0037]),
   (0x3258, .mapped [0x0032, 0x0038]), (0x3259, .mapped [0x0032, 0x0039]), (0x325A, .mapped [0x0033, 0x0030]),
   (0x325B, .mapped [0x0033, 0x0031]), (0x325C, .mapped [0x0033, 0x0032]), (0x325D, .mapped [0x0033, 0x0033]),
   (0x325E, .mapped [0x0033, 0x0034]), (0x325F, .mapped [0x0033, 0x0035]), (0x3260, .mapped [0x1100]),
   (0x3261, .shifted (-8543)), (0x3263, .shifted (-8542)), (0x3266, .mapped [0x1109]),
   (0x3267, .shifted (-8540)), (0x3269, .shifted (-8539)), (0x326E, .mapped [0xAC00]),
   (0x326F, .mapped [0xB098]), (0x3270, .mapped [0xB2E4]), (0x3271, .mapped [0xB77C]),
   (0x3272, .mapped [0xB9C8]), (0x3273, .mapped [0xBC14]), (0x3274, .mapped [0xC0AC]),
   (0x3275, .mapped [0xC544]), (0x3276, .mapped [0xC790]), (0x3277, .mapped [0xCC28]),
   (0x3278, .mapped [0xCE74]), (0x3279, .mapped [0xD0C0]), (0x327A, .mapped [0xD30C]),
   (0x327B, .mapped [0xD558]), (0x327C, .mapped [0xCC38, 0xACE0]), (0x327D, .mapped [0xC8FC, 0xC758]),
   (0x327E, .mapped [0xC6B0]), (0x327F, .valid), (0x3280, .mapped [0x4E00]),
   (0x3281, .mapped [0x4E8C]), (0x3282, .mapped [0x4E09]), (0x3283, .mapped [0x56DB]),
   (0x3284, .mapped [0x4E94]), (0x3285, .mapped [0x516D]), (0x3286, .mapped [0x4E03]),
   (0x3287, .mapped [0x516B]), (0x3288, .mapped [0x4E5D]), (0x3289, .mapped [0x5341]),
   (0x328A, .mapped [0x6708]), (0x328B, .mapped [0x706B]), (0x328C, .mapped [0x6C34]),
   (0x328D, .mapped [0x6728]), (0x328E, .mapped [0x91D1]), (0x328F, .mapped [0x571F]),
   (0x3290, .mapped [0x65E5]), (0x3291, .mapped [0x682A]), (0x3292, .mapped [0x6709]),
   (0x3293, .mapped [0x793E]), (0x3294, .mapped [0x540D]), (0x3295, .mapped [0x7279]),
   (0x3296, .mapped [0x8CA1]), (0x3297, .mapped [0x795D]), (0x3298, .mapped [0x52B4]),
   (0x3299, .mapped [0x79D8]), (0x329A, .mapped [0x7537]), (0x329B, .mapped [0x5973]),
   (0x329C, .mapped [0x9069]), (0x329D, .mapped [0x512A]), (0x329E, .mapped [0x5370]),
   (0x329F, .mapped [0x6CE8]), (0x32A0, .mapped [0x9805]), (0x32A1, .mapped [0x4F11]),
   (0x32A2, .mapped [0x5199]), (0x32A3, .mapped [0x6B63]), (0x32A4, .mapped [0x4E0A]),
   (0x32A5, .mapped [0x4E2D]), (0x32A6, .mapped [0x4E0B]), (0x32A7, .mapped [0x5DE6]),
   (0x32A8, .mapped [0x53F3]), (0x32A9, .mapped [0x533B]), (0x32AA, .mapped [0x5B97]),
   (0x32AB, .mapped [0x5B66]), (0x32AC, .mapped [0x76E3]), (0x32AD, .mapped [0x4F01]),
   (0x32AE, .mapped [0x8CC7]), (0x32AF, .mapped [0x5354]), (0x32B0, .mapped [0x591C]),
   (0x32B1, .mapped [0x0033, 0x0036]), (0x32B2, .mapped [0x0033, 0x0037]), (0x32B3, .mapped [0x0033, 0x0038]),
   (0x32B4, .mapped [0x0033, 0x0039]), (0x32B5, .mapped [0x0034, 0x0030]), (0x32B6, .mapped [0x0034, 0x0031]),
   (0x32B7, .mapped [0x0034, 0x0032]), (0x32B8, .mapped [0x0034, 0x0033]), (0x32B9, .mapped [0x0034, 0x0034]),
   (0x32BA, .mapped [0x0034, 0x0035]), (0x32BB, .mapped [0x0034, 0x0036]), (0x32BC, .mapped [0x0034, 0x0037]),
   (0x32BD, .mapped [0x0034, 0x0038]), (0x32BE, .mapped [0x0034, 0x0039]), (0x32BF, .mapped [0x0035, 0x0030]),
   (0x32C0, .mapped [0x0031, 0x6708]), (0x32C1, .mapped [0x0032, 0x6708]), (0x32C2, .mapped [0x0033, 0x6708]),
   (0x32C3, .mapped [0x0034, 0x6708]), (0x32C4, .mapped [0x0035, 0x6708]), (0x32C5, .mapped [0x0036, 0x6708]),
   (0x32C6, .mapped [0x0037, 0x6708]), (0x32C7, .mapped [0x0038, 0x6708]), (0x32C8, .mapped [0x0039, 0x6708]),
   (0x32C9, .mapped [0x0031, 0x0030, 0x6708]), (0x32CA, .mapped [0x0031, 0x0031, 0x6708]), (0x32CB, .mapped [0x0031, 0x0032, 0x6708]),
   (0x32CC, .mapped [0x0068, 0x0067]), (0x32CD, .mapped [0x0065, 0x0072, 0x0067]), (0x32CE, .mapped [0x0065, 0x0076]),
   (0x32CF, .mapped [0x006C, 0x0074, 0x0064]), (0x32D0, .mapped [0x30A2]), (0x32D1, .mapped [0x30A4]),
   (0x32D2, .mapped [0x30A6]), (0x32D3, .mapped [0x30A8]), (0x32D4, .shifted (-554))]

/-- Entries 1800 onwards of `idnaStarts`. -/
def idnaStartsPart3 : List (Nat × IdnaStatus) :=
  [(0x32D6, .mapped [0x30AD]), (0x32D7, .mapped [0x30AF]), (0x32D8, .mapped [0x30B1]),
   (0x32D9, .mapped [0x30B3]), (0x32DA, .mapped [0x30B5]), (0x32DB, .mapped [0x30B7]),
   (0x32DC, .mapped [0x30B9]), (0x32DD, .mapped [0x30BB]), (0x32DE, .mapped [0x30BD]),
   (0x32DF, .mapped [0x30BF]), (0x32E0, .mapped [0x30C1]), (0x32E1, .mapped [0x30C4]),
   (0x32E2, .mapped [0x30C6]), (0x32E3, .mapped [0x30C8]), (0x32E4, .shifted (-538)),
   (0x32EA, .mapped [0x30D2]), (0x32EB, .mapped [0x30D5]), (0x32EC, .mapped [0x30D8]),
   (0x32ED, .mapped [0x30DB]), (0x32EE, .shifted (-528)), (0x32F3, .mapped [0x30E4]),
   (0x32F4, .mapped [0x30E6]), (0x32F5, .shifted (-525)), (0x32FB, .shifted (-524)),
   (0x32FF, .mapped [0x4EE4, 0x548C]), (0x3300, .mapped [0x30A2, 0x30D1, 0x30FC, 0x30C8]), (0x3301, .mapped [0x30A2, 0x30EB, 0x30D5, 0x30A1]),
   (0x3302, .mapped [0x30A2, 0x30F3, 0x30DA, 0x30A2]), (0x3303, .mapped [0x30A2, 0x30FC, 0x30EB]), (0x3304, .mapped [0x30A4, 0x30CB, 0x30F3, 0x30B0]),
   (0x3305, .mapped [0x30A4, 0x30F3, 0x30C1]), (0x3306, .mapped [0x30A6, 0x30A9, 0x30F3]), (0x3307, .mapped [0x30A8, 0x30B9, 0x30AF, 0x30FC, 0x30C9]),
   (0x3308, .mapped [0x30A8, 0x30FC, 0x30AB, 0x30FC]), (0x3309, .mapped [0x30AA, 0x30F3, 0x30B9]), (0x330A, .mapped [0x30AA, 0x30FC, 0x30E0]),
   (0x330B, .mapped [0x30AB, 0x30A4, 0x30EA]), (0x330C, .mapped [0x30AB, 0x30E9, 0x30C3, 0x30C8]), (0x330D, .mapped [0x30AB, 0x30ED, 0x30EA, 0x30FC]),
   (0x330E, .mapped [0x30AC, 0x30ED, 0x30F3]), (0x330F, .mapped [0x30AC, 0x30F3, 0x30DE]), (0x3310, .mapped [0x30AE, 0x30AC]),
   (0x3311, .mapped [0x30AE, 0x30CB, 0x30FC]), (0x3312, .mapped [0x30AD, 0x30E5, 0x30EA, 0x30FC]), (0x3313, .mapped [0x30AE, 0x30EB, 0x30C0, 0x30FC]),
   (0x3314, .mapped [0x30AD, 0x30ED]), (0x3315, .mapped [0x30AD, 0x30ED, 0x30B0, 0x30E9, 0x30E0]), (0x3316, .mapped [0x30AD, 0x30ED, 0x30E1, 0x30FC, 0x30C8, 0x30EB]),
   (0x3317, .mapped [0x30AD, 0x30ED, 0x30EF, 0x30C3, 0x30C8]), (0x3318, .mapped [0x30B0, 0x30E9, 0x30E0]), (0x3319, .mapped [0x30B0, 0x30E9, 0x30E0, 0x30C8, 0x30F3]),
   (0x331A, .mapped [0x30AF, 0x30EB, 0x30BC, 0x30A4, 0x30ED]), (0x331B, .mapped [0x30AF, 0x30ED, 0x30FC, 0x30CD]), (0x331C, .mapped [0x30B1, 0x30FC, 0x30B9]),
   (0x331D, .mapped [0x30B3, 0x30EB, 0x30CA]), (0x331E, .mapped [0x30B3, 0x30FC, 0x30DD]), (0x331F, .mapped [0x30B5, 0x30A4, 0x30AF, 0x30EB]),
   (0x3320, .mapped [0x30B5, 0x30F3, 0x30C1, 0x30FC, 0x30E0]), (0x3321, .mapped [0x30B7, 0x30EA, 0x30F3, 0x30B0]), (0x3322, .mapped [0x30BB, 0x30F3, 0x30C1]),
   (0x3323, .mapped [0x30BB, 0x30F3, 0x30C8]), (0x3324, .mapped [0x30C0, 0x30FC, 0x30B9]), (0x3325, .mapped [0x30C7, 0x30B7]),
   (0x3326, .mapped [0x30C9, 0x30EB]), (0x3327, .mapped [0x30C8, 0x30F3]), (0x3328, .mapped [0x30CA, 0x30CE]),
   (0x3329, .mapped [0x30CE, 0x30C3, 0x30C8]), (0x332A, .mapped [0x30CF, 0x30A4, 0x30C4]), (0x332B, .mapped [0x30D1, 0x30FC, 0x30BB, 0x30F3, 0x30C8]),
   (0x332C, .mapped [0x30D1, 0x30FC, 0x30C4]), (0x332D, .mapped [0x30D0, 0x30FC, 0x30EC, 0x30EB]), (0x332E, .mapped [0x30D4, 0x30A2, 0x30B9, 0x30C8, 0x30EB]),
   (0x332F, .mapped [0x30D4, 0x30AF, 0x30EB]), (0x3330, .mapped [0x30D4, 0x30B3]), (0x3331, .mapped [0x30D3, 0x30EB]),
   (0x3332, .mapped [0x30D5, 0x30A1, 0x30E9, 0x30C3, 0x30C9]), (0x3333, .mapped [0x30D5, 0x30A3, 0x30FC, 0x30C8]), (0x3334, .mapped [0x30D6, 0x30C3, 0x30B7, 0x30A7, 0x30EB]),
   (0x3335, .mapped [0x30D5, 0x30E9, 0x30F3]), (0x3336, .mapped [0x30D8, 0x30AF, 0x30BF, 0x30FC, 0x30EB]), (0x3337, .mapped [0x30DA, 0x30BD]),
   (0x3338, .mapped [0x30DA, 0x30CB, 0x30D2]), (0x3339, .mapped [0x30D8, 0x30EB, 0x30C4]), (0x333A, .mapped [0x30DA, 0x30F3, 0x30B9]),
   (0x333B, .mapped [0x30DA, 0x30FC, 0x30B8]), (0x333C, .mapped [0x30D9, 0x30FC, 0x30BF]), (0x333D, .mapped [0x30DD, 0x30A4, 0x30F3, 0x30C8]),
   (0x333E, .mapped [0x30DC, 0x30EB, 0x30C8]), (0x333F, .mapped [0x30DB, 0x30F3]), (0x3340, .mapped [0x30DD, 0x30F3, 0x30C9]),
   (0x3341, .mapped [0x30DB, 0x30FC, 0x30EB]), (0x3342, .mapped [0x30DB, 0x30FC, 0x30F3]), (0x3343, .mapped [0x30DE, 0x30A4, 0x30AF, 0x30ED]),
   (0x3344, .mapped [0x30DE, 0x30A4, 0x30EB]), (0x3345, .mapped [0x30DE, 0x30C3, 0x30CF]), (0x3346, .mapped [0x30DE, 0x30EB, 0x30AF]),
   (0x3347, .mapped [0x30DE, 0x30F3, 0x30B7, 0x30E7, 0x30F3]), (0x3348, .mapped [0x30DF, 0x30AF, 0x30ED, 0x30F3]), (0x3349, .mapped [0x30DF, 0x30EA]),
   (0x334A, .mapped [0x30DF, 0x30EA, 0x30D0, 0x30FC, 0x30EB]), (0x334B, .mapped [0x30E1, 0x30AC]), (0x334C, .mapped [0x30E1, 0x30AC, 0x30C8, 0x30F3]),
   (0x334D, .mapped [0x30E1, 0x30FC, 0x30C8, 0x30EB]), (0x334E, .mapped [0x30E4, 0x30FC, 0x30C9]), (0x334F, .mapped [0x30E4, 0x30FC, 0x30EB]),
   (0x3350, .mapped [0x30E6, 0x30A2, 0x30F3]), (0x3351, .mapped [0x30EA, 0x30C3, 0x30C8, 0x30EB]), (0x3352, .mapped [0x30EA, 0x30E9]),
   (0x3353, .mapped [0x30EB, 0x30D4, 0x30FC]), (0x3354, .mapped [0x30EB, 0x30FC, 0x30D6, 0x30EB]), (0x3355, .mapped [0x30EC, 0x30E0]),
   (0x3356, .mapped [0x30EC, 0x30F3, 0x30C8, 0x30B2, 0x30F3]), (0x3357, .mapped [0x30EF, 0x30C3, 0x30C8]), (0x3358, .mapped [0x0030, 0x70B9]),
   (0x3359, .mapped [0x0031, 0x70B9]), (0x335A, .mapped [0x0032, 0x70B9]), (0x335B, .mapped [0x0033, 0x70B9]),
   (0x335C, .mapped [0x0034, 0x70B9]), (0x335D, .mapped [0x0035, 0x70B9]), (0x335E, .mapped [0x0036, 0x70B9]),
   (0x335F, .mapped [0x0037, 0x70B9]), (0x3360, .mapped [0x0038, 0x70B9]), (0x3361, .mapped [0x0039, 0x70B9]),
   (0x3362, .mapped [0x0031, 0x0030, 0x70B9]), (0x3363, .mapped [0x0031, 0x0031, 0x70B9]), (0x3364, .mapped [0x0031, 0x0032, 0x70B9]),
   (0x3365, .mapped [0x0031, 0x0033, 0x70B9]), (0x3366, .mapped [0x0031, 0x0034, 0x70B9]), (0x3367, .mapped [0x0031, 0x0035, 0x70B9]),
   (0x3368, .mapped [0x0031, 0x0036, 0x70B9]), (0x3369, .mapped [0x0031, 0x0037, 0x70B9]), (0x336A, .mapped [0x0031, 0x0038, 0x70B9]),
   (0x336B, .mapped [0x0031, 0x0039, 0x70B9]), (0x336C, .mapped [0x0032, 0x0030, 0x70B9]), (0x336D, .mapped [0x0032, 0x0031, 0x70B9]),
   (0x336E, .mapped [0x0032, 0x0032, 0x70B9]), (0x336F, .mapped [0x0032, 0x0033, 0x70B9]), (0x3370, .mapped [0x0032, 0x0034, 0x70B9]),
   (0x3371, .mapped [0x0068, 0x0070, 0x0061]), (0x3372, .mapped [0x0064, 0x0061]), (0x3373, .mapped [0x0061, 0x0075]),
   (0x3374, .mapped [0x0062, 0x0061, 0x0072]), (0x3375, .mapped [0x006F, 0x0076]), (0x3376, .mapped [0x0070, 0x0063]),
   (0x3377, .mapped [0x0064, 0x006D]), (0x3378, .mapped [0x0064, 0x006D, 0x0032]), (0x3379, .mapped [0x0064, 0x006D, 0x0033]),
   (0x337A, .mapped [0x0069, 0x0075]), (0x337B, .mapped [0x5E73, 0x6210]), (0x337C, .mapped [0x662D, 0x548C]),
   (0x337D, .mapped [0x5927, 0x6B63]), (0x337E, .mapped [0x660E, 0x6CBB]), (0x337F, .mapped [0x682A, 0x5F0F, 0x4F1A, 0x793E]),
   (0x3380, .mapped [0x0070, 0x0061]), (0x3381, .mapped [0x006E, 0x0061]), (0x3382, .mapped [0x03BC, 0x0061]),
   (0x3383, .mapped [0x006D, 0x0061]), (0x3384, .mapped [0x006B, 0x0061]), (0x3385, .mapped [0x006B, 0x0062]),
   (0x3386, .mapped [0x006D, 0x0062]), (0x3387, .mapped [0x0067, 0x0062]), (0x3388, .mapped [0x0063, 0x0061, 0x006C]),
   (0x3389, .mapped [0x006B, 0x0063, 0x0061, 0x006C]), (0x338A, .mapped [0x0070, 0x0066]), (0x338B, .mapped [0x006E, 0x0066]),
   (0x338C, .mapped [0x03BC, 0x0066]), (0x338D, .mapped [0x03BC, 0x0067]), (0x338E, .mapped [0x006D, 0x0067]),
   (0x338F, .mapped [0x006B, 0x0067]), (0x3390, .mapped [0x0068, 0x007A]), (0x3391, .mapped [0x006B, 0x0068, 0x007A]),
   (0x3392, .mapped [0x006D, 0x0068, 0x007A]), (0x3393, .mapped [0x0067, 0x0068, 0x007A]), (0x3394, .mapped [0x0074, 0x0068, 0x007A]),
   (0x3395, .mapped [0x03BC, 0x006C]), (0x3396, .mapped [0x006D, 0x006C]), (0x3397, .mapped [0x0064, 0x006C]),
   (0x3398, .mapped [0x006B, 0x006C]), (0x3399, .mapped [0x0066, 0x006D]), (0x339A, .mapped [0x006E, 0x006D]),
   (0x339B, .mapped [0x03BC, 0x006D]), (0x339C, .mapped [0x006D, 0x006D]), (0x339D, .mapped [0x0063, 0x006D]),
   (0x339E, .mapped [0x006B, 0x006D]), (0x339F, .mapped [0x006D, 0x006D, 0x0032]), (0x33A0, .mapped [0x0063, 0x006D, 0x0032]),
   (0x33A1, .mapped [0x006D, 0x0032]), (0x33A2, .mapped [0x006B, 0x006D, 0x0032]), (0x33A3, .mapped [0x006D, 0x006D, 0x0033]),
   (0x33A4, .mapped [0x0063, 0x006D, 0x0033]), (0x33A5, .mapped [0x006D, 0x0033]), (0x33A6, .mapped [0x006B, 0x006D, 0x0033]),
   (0x33A7, .mapped [0x006D, 0x2215, 0x0073]), (0x33A8, .mapped [0x006D, 0x2215, 0x0073, 0x0032]), (0x33A9, .mapped [0x0070, 0x0061]),
   (0x33AA, .mapped [0x006B, 0x0070, 0x0061]), (0x33AB, .mapped [0x006D, 0x0070, 0x0061]), (0x33AC, .mapped [0x0067, 0x0070, 0x0061]),
   (0x33AD, .mapped [0x0072, 0x0061, 0x0064]), (0x33AE, .mapped [0x0072, 0x0061, 0x0064, 0x2215, 0x0073]), (0x33AF, .mapped [0x0072, 0x0061, 0x0064, 0x2215, 0x0073, 0x0032]),
   (0x33B0, .mapped [0x0070, 0x0073]), (0x33B1, .mapped [0x006E, 0x0073]), (0x33B2, .mapped [0x03BC, 0x0073]),
   (0x33B3, .mapped [0x006D, 0x0073]), (0x33B4, .mapped [0x0070, 0x0076]), (0x33B5, .mapped [0x006E, 0x0076]),
   (0x33B6, .mapped [0x03BC, 0x0076]), (0x33B7, .mapped [0x006D, 0x0076]), (0x33B8, .mapped [0x006B, 0x0076]),
   (0x33B9, .mapped [0x006D, 0x0076]), (0x33BA, .mapped [0x0070, 0x0077]), (0x33BB, .mapped [0x006E, 0x0077]),
   (0x33BC, .mapped [0x03BC, 0x0077]), (0x33BD, .mapped [0x006D, 0x0077]), (0x33BE, .mapped [0x006B, 0x0077]),
   (0x33BF, .mapped [0x006D, 0x0077]), (0x33C0, .mapped [0x006B, 0x03C9]), (0x33C1, .mapped [0x006D, 0x03C9]),
   (0x33C2, .disallowed), (0x33C3, .mapped [0x0062, 0x0071]), (0x33C4, .mapped [0x0063, 0x0063]),
   (0x33C5, .mapped [0x0063, 0x0064]), (0x33C6, .mapped [0x0063, 0x2215, 0x006B, 0x0067]), (0x33C7, .disallowed),
   (0x33C8, .mapped [0x0064, 0x0062]), (0x33C9, .mapped [0x0067, 0x0079]), (0x33CA, .mapped [0x0068, 0x0061]),
   (0x33CB, .mapped [0x0068, 0x0070]), (0x33CC, .mapped [0x0069, 0x006E]), (0x33CD, .mapped [0x006B, 0x006B]),
   (0x33CE, .mapped [0x006B, 0x006D]), (0x33CF, .mapped [0x006B, 0x0074]), (0x33D0, .mapped [0x006C, 0x006D]),
   (0x33D1, .mapped [0x006C, 0x006E]), (0x33D2, .mapped [0x006C, 0x006F, 0x0067]), (0x33D3, .mapped [0x006C, 0x0078]),
   (0x33D4, .mapped [0x006D, 0x0062]), (0x33D5, .mapped [0x006D, 0x0069, 0x006C]), (0x33D6, .mapped [0x006D, 0x006F, 0x006C]),
   (0x33D7, .mapped [0x0070, 0x0068]), (0x33D8, .disallowed), (0x33D9, .mapped [0x0070, 0x0070, 0x006D]),
   (0x33DA, .mapped [0x0070, 0x0072]), (0x33DB, .mapped [0x0073, 0x0072]), (0x33DC, .mapped [0x0073, 0x0076]),
   (0x33DD, .mapped [0x0077, 0x0062]), (0x33DE, .mapped [0x0076, 0x2215, 0x006D]), (0x33DF, .mapped [0x0061, 0x2215, 0x006D]),
   (0x33E0, .mapped [0x0031, 0x65E5]), (0x33E1, .mapped [0x0032, 0x65E5]), (0x33E2, .mapped [0x0033, 0x65E5]),
   (0x33E3, .mapped [0x0034, 0x65E5]), (0x33E4, .mapped [0x0035, 0x65E5]), (0x33E5, .mapped [0x0036, 0x65E5]),
   (0x33E6, .mapped [0x0037, 0x65E5]), (0x33E7, .mapped [0x0038, 0x65E5]), (0x33E8, .mapped [0x0039, 0x65E5]),
   (0x33E9, .mapped [0x0031, 0x0030, 0x65E5]), (0x33EA, .mapped [0x0031, 0x0031, 0x65E5]), (0x33EB, .mapped [0x0031, 0x0032, 0x65E5]),
   (0x33EC, .mapped [0x0031, 0x0033, 0x65E5]), (0x33ED, .mapped [0x0031, 0x0034, 0x65E5]), (0x33EE, .mapped [0x0031, 0x0035, 0x65E5]),
   (0x33EF, .mapped [0x0031, 0x0036, 0x65E5]), (0x33F0, .mapped [0x0031, 0x0037, 0x65E5]), (0x33F1, .mapped [0x0031, 0x0038, 0x65E5]),
   (0x33F2, .mapped [0x0031, 0x0039, 0x65E5]), (0x33F3, .mapped [0x0032, 0x0030, 0x65E5]), (0x33F4, .mapped [0x0032, 0x0031, 0x65E5]),
   (0x33F5, .mapped [0x0032, 0x0032, 0x65E5]), (0x33F6, .mapped [0x0032, 0x0033, 0x65E5]), (0x33F7, .mapped [0x0032, 0x0034, 0x65E5]),
   (0x33F8, .mapped [0x0032, 0x0035, 0x65E5]), (0x33F9, .mapped [0x0032, 0x0036, 0x65E5]), (0x33FA, .mapped [0x0032, 0x0037, 0x65E5]),
   (0x33FB, .mapped [0x0032, 0x0038, 0x65E5]), (0x33FC, .mapped [0x0032, 0x0039, 0x65E5]), (0x33FD, .mapped [0x0033, 0x0030, 0x65E5]),
   (0x33FE, .mapped [0x0033, 0x0031, 0x65E5]), (0x33FF, .mapped [0x0067, 0x0061, 0x006C]), (0x3400, .valid),
   (0xA48D, .disallowed), (0xA490, .valid), (0xA4C7, .disallowed),
   (0xA4D0, .valid), (0xA62C, .disallowed), (0xA640, .pairs),
   (0xA66C, .mapped [0xA66D]), (0xA66D, .valid), (0xA680, .pairs),
   (0xA69C, .mapped [0x044A]), (0xA69D, .mapped [0x044C]), (0xA69E, .valid),
   (0xA6F8, .disallowed), (0xA700, .valid), (0xA722, .pairs),
   (0xA72E, .mapped [0xA72F]), (0xA72F, .valid), (0xA732, .pairs),
   (0xA770, .mapped [0xA76F]), (0xA771, .valid), (0xA779, .pairs),
   (0xA77D, .mapped [0x1D79]), (0xA77E, .pairs), (0xA786, .mapped [0xA787]),
   (0xA787, .valid), (0xA78B, .mapped [0xA78C]), (0xA78C, .valid),
   (0xA78D, .mapped [0x0265]), (0xA78E, .valid), (0xA790, .mapped [0xA791]),
   (0xA791, .valid), (0xA792, .mapped [0xA793]), (0xA793, .valid),
   (0xA796, .pairs), (0xA7AA, .mapped [0x0266]), (0xA7AB, .mapped [0x025C]),
   (0xA7AC, .mapped [0x0261]), (0xA7AD, .mapped [0x026C]), (0xA7AE, .mapped [0x026A]),
   (0xA7AF, .valid), (0xA7B0, .mapped [0x029E]), (0xA7B1, .mapped [0x0287]),
   (0xA7B2, .mapped [0x029D]), (0xA7B3, .mapped [0xAB53]), (0xA7B4, .pairs),
   (0xA7C4, .mapped [0xA794]), (0xA7C5, .mapped [0x0282]), (0xA7C6, .mapped [0x1D8E]),
   (0xA7C7, .pairs), (0xA7CB, .mapped [0x0264]), (0xA7CC, .pairs),
   (0xA7DC, .mapped [0x019B]), (0xA7DD, .disallowed), (0xA7F1, .mapped [0x0073]),
   (0xA7F2, .mapped [0x0063]), (0xA7F3, .mapped [0x0066]), (0xA7F4, .mapped [0x0071]),
   (0xA7F5, .mapped [0xA7F6]), (0xA7F6, .valid), (0xA7F8, .mapped [0x0127]),
   (0xA7F9, .mapped [0x0153]), (0xA7FA, .valid), (0xA82D, .disallowed),
   (0xA830, .valid), (0xA83A, .disallowed), (0xA840, .valid),
   (0xA878, .disallowed), (0xA880, .valid), (0xA8C6, .disallowed),
   (0xA8CE, .valid), (0xA8DA, .disallowed), (0xA8E0, .valid),
   (0xA954, .disallowed), (0xA95F, .valid), (0xA97D, .disallowed),
   (0xA980, .valid), (0xA9CE, .disallowed), (0xA9CF, .valid),
   (0xA9DA, .disallowed), (0xA9DE, .valid), (0xA9FF, .disallowed),
   (0xAA00, .valid), (0xAA37, .disallowed), (0xAA40, .valid),
   (0xAA4E, .disallowed), (0xAA50, .valid), (0xAA5A, .disallowed),
   (0xAA5C, .valid), (0xAAC3, .disallowed), (0xAADB, .valid),
   (0xAAF7, .disallowed), (0xAB01, .valid), (0xAB07, .disallowed),
   (0xAB09, .valid), (0xAB0F, .disallowed), (0xAB11, .valid),
   (0xAB17, .disallowed), (0xAB20, .valid), (0xAB27, .disallowed),
   (0xAB28, .valid), (0xAB2F, .disallowed), (0xAB30, .valid),
   (0xAB5C, .mapped [0xA727]), (0xAB5D, .mapped [0xAB37]), (0xAB5E, .mapped [0x026B]),
   (0xAB5F, .mapped [0xAB52]), (0xAB60, .valid), (0xAB69, .mapped [0x028D]),
   (0xAB6A, .valid), (0xAB6C, .disallowed), (0xAB70, .shifted (-38864)),
   (0xABC0, .valid), (0xABEE, .disallowed), (0xABF0, .valid),
   (0xABFA, .disallowed), (0xAC00, .valid), (0xD7A4, .disallowed),
   (0xD7B0, .valid), (0xD7C7, .disallowed), (0xD7CB, .valid),
   (0xD7FC, .disallowed), (0xF900, .mapped [0x8C48]), (0xF901, .mapped [0x66F4]),
   (0xF902, .mapped [0x8ECA]), (0xF903, .mapped [0x8CC8]), (0xF904, .mapped [0x6ED1]),
   (0xF905, .mapped [0x4E32]), (0xF906, .mapped [0x53E5]), (0xF907, .mapped [0x9F9C]),
   (0xF909, .mapped [0x5951]), (0xF90A, .mapped [0x91D1]), (0xF90B, .mapped [0x5587]),
   (0xF90C, .mapped [0x5948]), (0xF90D, .mapped [0x61F6]), (0xF90E, .mapped [0x7669]),
   (0xF90F, .mapped [0x7F85]), (0xF910, .mapped [0x863F]), (0xF911, .mapped [0x87BA]),
   (0xF912, .mapped [0x88F8]), (0xF913, .mapped [0x908F]), (0xF914, .mapped [0x6A02]),
   (0xF915, .mapped [0x6D1B]), (0xF916, .mapped [0x70D9]), (0xF917, .mapped [0x73DE]),
   (0xF918, .mapped [0x843D]), (0xF919, .mapped [0x916A]), (0xF91A, .mapped [0x99F1]),
   (0xF91B, .mapped [0x4E82]), (0xF91C, .mapped [0x5375]), (0xF91D, .mapped [0x6B04]),
   (0xF91E, .mapped [0x721B]), (0xF91F, .mapped [0x862D]), (0xF920, .mapped [0x9E1E]),
   (0xF921, .mapped [0x5D50]), (0xF922, .mapped [0x6FEB]), (0xF923, .mapped [0x85CD]),
   (0xF924, .mapped [0x8964]), (0xF925, .mapped [0x62C9]), (0xF926, .mapped [0x81D8]),
   (0xF927, .mapped [0x881F]), (0xF928, .mapped [0x5ECA]), (0xF929, .mapped [0x6717]),
   (0xF92A, .mapped [0x6D6A]), (0xF92B, .mapped [0x72FC]), (0xF92C, .mapped [0x90CE]),
   (0xF92D, .mapped [0x4F86]), (0xF92E, .mapped [0x51B7]), (0xF92F, .mapped [0x52DE]),
   (0xF930, .mapped [0x64C4]), (0xF931, .mapped [0x6AD3]), (0xF932, .mapped [0x7210]),
   (0xF933, .mapped [0x76E7]), (0xF934, .mapped [0x8001]), (0xF935, .mapped [0x8606]),
   (0xF936, .mapped [0x865C]), (0xF937, .mapped [0x8DEF]), (0xF938, .mapped [0x9732]),
   (0xF939, .mapped [0x9B6F]), (0xF93A, .mapped [0x9DFA]), (0xF93B, .mapped [0x788C]),
   (0xF93C, .mapped [0x797F]), (0xF93D, .mapped [0x7DA0]), (0xF93E, .mapped [0x83C9]),
   (0xF93F, .mapped [0x9304]), (0xF940, .mapped [0x9E7F]), (0xF941, .mapped [0x8AD6]),
   (0xF942, .mapped [0x58DF]), (0xF943, .mapped [0x5F04]), (0xF944, .mapped [0x7C60]),
   (0xF945, .mapped [0x807E]), (0xF946, .mapped [0x7262]), (0xF947, .mapped [0x78CA]),
   (0xF948, .mapped [0x8CC2]), (0xF949, .mapped [0x96F7]), (0xF94A, .mapped [0x58D8]),
   (0xF94B, .mapped [0x5C62]), (0xF94C, .mapped [0x6A13]), (0xF94D, .mapped [0x6DDA]),
   (0xF94E, .mapped [0x6F0F]), (0xF94F, .mapped [0x7D2F]), (0xF950, .mapped [0x7E37]),
   (0xF951, .mapped [0x964B]), (0xF952, .mapped [0x52D2]), (0xF953, .mapped [0x808B]),
   (0xF954, .mapped [0x51DC]), (0xF955, .mapped [0x51CC]), (0xF956, .mapped [0x7A1C]),
   (0xF957, .mapped [0x7DBE]), (0xF958, .mapped [0x83F1]), (0xF959, .mapped [0x9675]),
   (0xF95A, .mapped [0x8B80]), (0xF95B, .mapped [0x62CF]), (0xF95C, .mapped [0x6A02]),
   (0xF95D, .mapped [0x8AFE]), (0xF95E, .mapped [0x4E39]), (0xF95F, .mapped [0x5BE7]),
   (0xF960, .mapped [0x6012]), (0xF961, .mapped [0x7387]), (0xF962, .mapped [0x7570]),
   (0xF963, .mapped [0x5317]), (0xF964, .mapped [0x78FB]), (0xF965, .mapped [0x4FBF]),
   (0xF966, .mapped [0x5FA9]), (0xF967, .mapped [0x4E0D]), (0xF968, .mapped [0x6CCC]),
   (0xF969, .mapped [0x6578]), (0xF96A, .mapped [0x7D22]), (0xF96B, .mapped [0x53C3]),
   (0xF96C, .mapped [0x585E]), (0xF96D, .mapped [0x7701]), (0xF96E, .mapped [0x8449]),
   (0xF96F, .mapped [0x8AAA]), (0xF970, .mapped [0x6BBA]), (0xF971, .mapped [0x8FB0]),
   (0xF972, .mapped [0x6C88]), (0xF973, .mapped [0x62FE]), (0xF974, .mapped [0x82E5]),
   (0xF975, .mapped [0x63A0]), (0xF976, .mapped [0x7565]), (0xF977, .mapped [0x4EAE]),
   (0xF978, .mapped [0x5169]), (0xF979, .mapped [0x51C9]), (0xF97A, .mapped [0x6881]),
   (0xF97B, .mapped [0x7CE7]), (0xF97C, .mapped [0x826F]), (0xF97D, .mapped [0x8AD2]),
   (0xF97E, .mapped [0x91CF]), (0xF97F, .mapped [0x52F5]), (0xF980, .mapped [0x5442]),
   (0xF981, .mapped [0x5973]), (0xF982, .mapped [0x5EEC]), (0xF983, .mapped [0x65C5]),
   (0xF984, .mapped [0x6FFE]), (0xF985, .mapped [0x792A]), (0xF986, .mapped [0x95AD]),
   (0xF987, .mapped [0x9A6A]), (0xF988, .mapped [0x9E97]), (0xF989, .mapped [0x9ECE]),
   (0xF98A, .mapped [0x529B]), (0xF98B, .mapped [0x66C6]), (0xF98C, .mapped [0x6B77]),
   (0xF98D, .mapped [0x8F62]), (0xF98E, .mapped [0x5E74]), (0xF98F, .mapped [0x6190]),
   (0xF990, .mapped [0x6200]), (0xF991, .mapped [0x649A]), (0xF992, .mapped [0x6F23]),
   (0xF993, .mapped [0x7149]), (0xF994, .mapped [0x7489]), (0xF995, .mapped [0x79CA]),
   (0xF996, .mapped [0x7DF4]), (0xF997, .mapped [0x806F]), (0xF998, .mapped [0x8F26]),
   (0xF999, .mapped [0x84EE]), (0xF99A, .mapped [0x9023]), (0xF99B, .mapped [0x934A]),
   (0xF99C, .mapped [0x5217]), (0xF99D, .mapped [0x52A3]), (0xF99E, .mapped [0x54BD]),
   (0xF99F, .mapped [0x70C8]), (0xF9A0, .mapped [0x88C2]), (0xF9A1, .mapped [0x8AAA]),
   (0xF9A2, .mapped [0x5EC9]), (0xF9A3, .mapped [0x5FF5]), (0xF9A4, .mapped [0x637B]),
   (0xF9A5, .mapped [0x6BAE]), (0xF9A6, .mapped [0x7C3E]), (0xF9A7, .mapped [0x7375]),
   (0xF9A8, .mapped [0x4EE4]), (0xF9A9, .mapped [0x56F9]), (0xF9AA, .mapped [0x5BE7]),
   (0xF9AB, .mapped [0x5DBA]), (0xF9AC, .mapped [0x601C]), (0xF9AD, .mapped [0x73B2]),
   (0xF9AE, .mapped [0x7469]), (0xF9AF, .mapped [0x7F9A]), (0xF9B0, .mapped [0x8046]),
   (0xF9B1, .mapped [0x9234]), (0xF9B2, .mapped [0x96F6]), (0xF9B3, .mapped [0x9748]),
   (0xF9B4, .mapped [0x9818]), (0xF9B5, .mapped [0x4F8B]), (0xF9B6, .mapped [0x79AE]),
   (0xF9B7, .mapped [0x91B4]), (0xF9B8, .mapped [0x96B8]), (0xF9B9, .mapped [0x60E1]),
   (0xF9BA, .mapped [0x4E86]), (0xF9BB, .mapped [0x50DA]), (0xF9BC, .mapped [0x5BEE]),
   (0xF9BD, .mapped [0x5C3F]), (0xF9BE, .mapped [0x6599]), (0xF9BF, .mapped [0x6A02]),
   (0xF9C0, .mapped [0x71CE]), (0xF9C1, .mapped [0x7642]), (0xF9C2, .mapped [0x84FC]),
   (0xF9C3, .mapped [0x907C]), (0xF9C4, .mapped [0x9F8D]), (0xF9C5, .mapped [0x6688])]

/-- Entries 2400 onwards of `idnaStarts`. -/
def idnaStartsPart4 : List (Nat × IdnaStatus) :=
  [(0xF9C6, .mapped [0x962E]), (0xF9C7, .mapped [0x5289]), (0xF9C8, .mapped [0x677B]),
   (0xF9C9, .mapped [0x67F3]), (0xF9CA, .mapped [0x6D41]), (0xF9CB, .mapped [0x6E9C]),
   (0xF9CC, .mapped [0x7409]), (0xF9CD, .mapped [0x7559]), (0xF9CE, .mapped [0x786B]),
   (0xF9CF, .mapped [0x7D10]), (0xF9D0, .mapped [0x985E]), (0xF9D1, .mapped [0x516D]),
   (0xF9D2, .mapped [0x622E]), (0xF9D3, .mapped [0x9678]), (0xF9D4, .mapped [0x502B]),
   (0xF9D5, .mapped [0x5D19]), (0xF9D6, .mapped [0x6DEA]), (0xF9D7, .mapped [0x8F2A]),
   (0xF9D8, .mapped [0x5F8B]), (0xF9D9, .mapped [0x6144]), (0xF9DA, .mapped [0x6817]),
   (0xF9DB, .mapped [0x7387]), (0xF9DC, .mapped [0x9686]), (0xF9DD, .mapped [0x5229]),
   (0xF9DE, .mapped [0x540F]), (0xF9DF, .mapped [0x5C65]), (0xF9E0, .mapped [0x6613]),
   (0xF9E1, .mapped [0x674E]), (0xF9E2, .mapped [0x68A8]), (0xF9E3, .mapped [0x6CE5]),
   (0xF9E4, .mapped [0x7406]), (0xF9E5, .mapped [0x75E2]), (0xF9E6, .mapped [0x7F79]),
   (0xF9E7, .mapped [0x88CF]), (0xF9E8, .mapped [0x88E1]), (0xF9E9, .mapped [0x91CC]),
   (0xF9EA, .mapped [0x96E2]), (0xF9EB, .mapped [0x533F]), (0xF9EC, .mapped [0x6EBA]),
   (0xF9ED, .mapped [0x541D]), (0xF9EE, .mapped [0x71D0]), (0xF9EF, .mapped [0x7498]),
   (0xF9F0, .mapped [0x85FA]), (0xF9F1, .mapped [0x96A3]), (0xF9F2, .mapped [0x9C57]),
   (0xF9F3, .mapped [0x9E9F]), (0xF9F4, .mapped [0x6797]), (0xF9F5, .mapped [0x6DCB]),
   (0xF9F6, .mapped [0x81E8]), (0xF9F7, .mapped [0x7ACB]), (0xF9F8, .mapped [0x7B20]),
   (0xF9F9, .mapped [0x7C92]), (0xF9FA, .mapped [0x72C0]), (0xF9FB, .mapped [0x7099]),
   (0xF9FC, .mapped [0x8B58]), (0xF9FD, .mapped [0x4EC0]), (0xF9FE, .mapped [0x8336]),
   (0xF9FF, .mapped [0x523A]), (0xFA00, .mapped [0x5207]), (0xFA01, .mapped [0x5EA6]),
   (0xFA02, .mapped [0x62D3]), (0xFA03, .mapped [0x7CD6]), (0xFA04, .mapped [0x5B85]),
   (0xFA05, .mapped [0x6D1E]), (0xFA06, .mapped [0x66B4]), (0xFA07, .mapped [0x8F3B]),
   (0xFA08, .mapped [0x884C]), (0xFA09, .mapped [0x964D]), (0xFA0A, .mapped [0x898B]),
   (0xFA0B, .mapped [0x5ED3]), (0xFA0C, .mapped [0x5140]), (0xFA0D, .mapped [0x55C0]),
   (0xFA0E, .valid), (0xFA10, .mapped [0x585A]), (0xFA11, .valid),
   (0xFA12, .mapped [0x6674]), (0xFA13, .valid), (0xFA15, .mapped [0x51DE]),
   (0xFA16, .mapped [0x732A]), (0xFA17, .mapped [0x76CA]), (0xFA18, .mapped [0x793C]),
   (0xFA19, .mapped [0x795E]), (0xFA1A, .mapped [0x7965]), (0xFA1B, .mapped [0x798F]),
   (0xFA1C, .mapped [0x9756]), (0xFA1D, .mapped [0x7CBE]), (0xFA1E, .mapped [0x7FBD]),
   (0xFA1F, .valid), (0xFA20, .mapped [0x8612]), (0xFA21, .valid),
   (0xFA22, .mapped [0x8AF8]), (0xFA23, .valid), (0xFA25, .mapped [0x9038]),
   (0xFA26, .mapped [0x90FD]), (0xFA27, .valid), (0xFA2A, .mapped [0x98EF]),
   (0xFA2B, .mapped [0x98FC]), (0xFA2C, .mapped [0x9928]), (0xFA2D, .mapped [0x9DB4]),
   (0xFA2E, .mapped [0x90DE]), (0xFA2F, .mapped [0x96B7]), (0xFA30, .mapped [0x4FAE]),
   (0xFA31, .mapped [0x50E7]), (0xFA32, .mapped [0x514D]), (0xFA33, .mapped [0x52C9]),
   (0xFA34, .mapped [0x52E4]), (0xFA35, .mapped [0x5351]), (0xFA36, .mapped [0x559D]),
   (0xFA37, .mapped [0x5606]), (0xFA38, .mapped [0x5668]), (0xFA39, .mapped [0x5840]),
   (0xFA3A, .mapped [0x58A8]), (0xFA3B, .mapped [0x5C64]), (0xFA3C, .mapped [0x5C6E]),
   (0xFA3D, .mapped [0x6094]), (0xFA3E, .mapped [0x6168]), (0xFA3F, .mapped [0x618E]),
   (0xFA40, .mapped [0x61F2]), (0xFA41, .mapped [0x654F]), (0xFA42, .mapped [0x65E2]),
   (0xFA43, .mapped [0x6691]), (0xFA44, .mapped [0x6885]), (0xFA45, .mapped [0x6D77]),
   (0xFA46, .mapped [0x6E1A]), (0xFA47, .mapped [0x6F22]), (0xFA48, .mapped [0x716E]),
   (0xFA49, .mapped [0x722B]), (0xFA4A, .mapped [0x7422]), (0xFA4B, .mapped [0x7891]),
   (0xFA4C, .mapped [0x793E]), (0xFA4D, .mapped [0x7949]), (0xFA4E, .mapped [0x7948]),
   (0xFA4F, .mapped [0x7950]), (0xFA50, .mapped [0x7956]), (0xFA51, .mapped [0x795D]),
   (0xFA52, .shifted (-32965)), (0xFA54, .mapped [0x7A40]), (0xFA55, .mapped [0x7A81]),
   (0xFA56, .mapped [0x7BC0]), (0xFA57, .mapped [0x7DF4]), (0xFA58, .mapped [0x7E09]),
   (0xFA59, .mapped [0x7E41]), (0xFA5A, .mapped [0x7F72]), (0xFA5B, .mapped [0x8005]),
   (0xFA5C, .mapped [0x81ED]), (0xFA5D, .mapped [0x8279]), (0xFA5F, .mapped [0x8457]),
   (0xFA60, .mapped [0x8910]), (0xFA61, .mapped [0x8996]), (0xFA62, .mapped [0x8B01]),
   (0xFA63, .mapped [0x8B39]), (0xFA64, .mapped [0x8CD3]), (0xFA65, .mapped [0x8D08]),
   (0xFA66, .mapped [0x8FB6]), (0xFA67, .mapped [0x9038]), (0xFA68, .mapped [0x96E3]),
   (0xFA69, .mapped [0x97FF]), (0xFA6A, .mapped [0x983B]), (0xFA6B, .mapped [0x6075]),
   (0xFA6C, .mapped [0x242EE]), (0xFA6D, .mapped [0x8218]), (0xFA6E, .disallowed),
   (0xFA70, .mapped [0x4E26]), (0xFA71, .mapped [0x51B5]), (0xFA72, .mapped [0x5168]),
   (0xFA73, .mapped [0x4F80]), (0xFA74, .mapped [0x5145]), (0xFA75, .mapped [0x5180]),
   (0xFA76, .mapped [0x52C7]), (0xFA77, .mapped [0x52FA]), (0xFA78, .mapped [0x559D]),
   (0xFA79, .mapped [0x5555]), (0xFA7A, .mapped [0x5599]), (0xFA7B, .mapped [0x55E2]),
   (0xFA7C, .mapped [0x585A]), (0xFA7D, .mapped [0x58B3]), (0xFA7E, .mapped [0x5944]),
   (0xFA7F, .mapped [0x5954]), (0xFA80, .mapped [0x5A62]), (0xFA81, .mapped [0x5B28]),
   (0xFA82, .mapped [0x5ED2]), (0xFA83, .mapped [0x5ED9]), (0xFA84, .mapped [0x5F69]),
   (0xFA85, .mapped [0x5FAD]), (0xFA86, .mapped [0x60D8]), (0xFA87, .mapped [0x614E]),
   (0xFA88, .mapped [0x6108]), (0xFA89, .mapped [0x618E]), (0xFA8A, .mapped [0x6160]),
   (0xFA8B, .mapped [0x61F2]), (0xFA8C, .mapped [0x6234]), (0xFA8D, .mapped [0x63C4]),
   (0xFA8E, .mapped [0x641C]), (0xFA8F, .mapped [0x6452]), (0xFA90, .mapped [0x6556]),
   (0xFA91, .mapped [0x6674]), (0xFA92, .mapped [0x6717]), (0xFA93, .mapped [0x671B]),
   (0xFA94, .mapped [0x6756]), (0xFA95, .mapped [0x6B79]), (0xFA96, .mapped [0x6BBA]),
   (0xFA97, .mapped [0x6D41]), (0xFA98, .mapped [0x6EDB]), (0xFA99, .mapped [0x6ECB]),
   (0xFA9A, .mapped [0x6F22]), (0xFA9B, .mapped [0x701E]), (0xFA9C, .mapped [0x716E]),
   (0xFA9D, .mapped [0x77A7]), (0xFA9E, .mapped [0x7235]), (0xFA9F, .mapped [0x72AF]),
   (0xFAA0, .mapped [0x732A]), (0xFAA1, .mapped [0x7471]), (0xFAA2, .mapped [0x7506]),
   (0xFAA3, .mapped [0x753B]), (0xFAA4, .mapped [0x761D]), (0xFAA5, .mapped [0x761F]),
   (0xFAA6, .mapped [0x76CA]), (0xFAA7, .mapped [0x76DB]), (0xFAA8, .mapped [0x76F4]),
   (0xFAA9, .mapped [0x774A]), (0xFAAA, .mapped [0x7740]), (0xFAAB, .mapped [0x78CC]),
   (0xFAAC, .mapped [0x7AB1]), (0xFAAD, .mapped [0x7BC0]), (0xFAAE, .mapped [0x7C7B]),
   (0xFAAF, .mapped [0x7D5B]), (0xFAB0, .mapped [0x7DF4]), (0xFAB1, .mapped [0x7F3E]),
   (0xFAB2, .mapped [0x8005]), (0xFAB3, .mapped [0x8352]), (0xFAB4, .mapped [0x83EF]),
   (0xFAB5, .mapped [0x8779]), (0xFAB6, .mapped [0x8941]), (0xFAB7, .mapped [0x8986]),
   (0xFAB8, .mapped [0x8996]), (0xFAB9, .mapped [0x8ABF]), (0xFABA, .mapped [0x8AF8]),
   (0xFABB, .mapped [0x8ACB]), (0xFABC, .mapped [0x8B01]), (0xFABD, .mapped [0x8AFE]),
   (0xFABE, .mapped [0x8AED]), (0xFABF, .mapped [0x8B39]), (0xFAC0, .mapped [0x8B8A]),
   (0xFAC1, .mapped [0x8D08]), (0xFAC2, .mapped [0x8F38]), (0xFAC3, .mapped [0x9072]),
   (0xFAC4, .mapped [0x9199]), (0xFAC5, .mapped [0x9276]), (0xFAC6, .mapped [0x967C]),
   (0xFAC7, .mapped [0x96E3]), (0xFAC8, .mapped [0x9756]), (0xFAC9, .mapped [0x97DB]),
   (0xFACA, .mapped [0x97FF]), (0xFACB, .mapped [0x980B]), (0xFACC, .mapped [0x983B]),
   (0xFACD, .mapped [0x9B12]), (0xFACE, .mapped [0x9F9C]), (0xFACF, .mapped [0x2284A]),
   (0xFAD0, .mapped [0x22844]), (0xFAD1, .mapped [0x233D5]), (0xFAD2, .mapped [0x3B9D]),
   (0xFAD3, .mapped [0x4018]), (0xFAD4, .mapped [0x4039]), (0xFAD5, .mapped [0x25249]),
   (0xFAD6, .mapped [0x25CD0]), (0xFAD7, .mapped [0x27ED3]), (0xFAD8, .mapped [0x9F43]),
   (0xFAD9, .mapped [0x9F8E]), (0xFADA, .disallowed), (0xFB00, .mapped [0x0066, 0x0066]),
   (0xFB01, .mapped [0x0066, 0x0069]), (0xFB02, .mapped [0x0066, 0x006C]), (0xFB03, .mapped [0x0066, 0x0066, 0x0069]),
   (0xFB04, .mapped [0x0066, 0x0066, 0x006C]), (0xFB05, .mapped [0x0073, 0x0074]), (0xFB07, .disallowed),
   (0xFB13, .mapped [0x0574, 0x0576]), (0xFB14, .mapped [0x0574, 0x0565]), (0xFB15, .mapped [0x0574, 0x056B]),
   (0xFB16, .mapped [0x057E, 0x0576]), (0xFB17, .mapped [0x0574, 0x056D]), (0xFB18, .disallowed),
   (0xFB1D, .mapped [0x05D9, 0x05B4]), (0xFB1E, .valid), (0xFB1F, .mapped [0x05F2, 0x05B7]),
   (0xFB20, .mapped [0x05E2]), (0xFB21, .mapped [0x05D0]), (0xFB22, .shifted (-62799)),
   (0xFB24, .shifted (-62793)), (0xFB27, .mapped [0x05E8]), (0xFB28, .mapped [0x05EA]),
   (0xFB29, .mapped [0x002B]), (0xFB2A, .mapped [0x05E9, 0x05C1]), (0xFB2B, .mapped [0x05E9, 0x05C2]),
   (0xFB2C, .mapped [0x05E9, 0x05BC, 0x05C1]), (0xFB2D, .mapped [0x05E9, 0x05BC, 0x05C2]), (0xFB2E, .mapped [0x05D0, 0x05B7]),
   (0xFB2F, .mapped [0x05D0, 0x05B8]), (0xFB30, .mapped [0x05D0, 0x05BC]), (0xFB31, .mapped [0x05D1, 0x05BC]),
   (0xFB32, .mapped [0x05D2, 0x05BC]), (0xFB33, .mapped [0x05D3, 0x05BC]), (0xFB34, .mapped [0x05D4, 0x05BC]),
   (0xFB35, .mapped [0x05D5, 0x05BC]), (0xFB36, .mapped [0x05D6, 0x05BC]), (0xFB37, .disallowed),
   (0xFB38, .mapped [0x05D8, 0x05BC]), (0xFB39, .mapped [0x05D9, 0x05BC]), (0xFB3A, .mapped [0x05DA, 0x05BC]),
   (0xFB3B, .mapped [0x05DB, 0x05BC]), (0xFB3C, .mapped [0x05DC, 0x05BC]), (0xFB3D, .disallowed),
   (0xFB3E, .mapped [0x05DE, 0x05BC]), (0xFB3F, .disallowed), (0xFB40, .mapped [0x05E0, 0x05BC]),
   (0xFB41, .mapped [0x05E1, 0x05BC]), (0xFB42, .disallowed), (0xFB43, .mapped [0x05E3, 0x05BC]),
   (0xFB44, .mapped [0x05E4, 0x05BC]), (0xFB45, .disallowed), (0xFB46, .mapped [0x05E6, 0x05BC]),
   (0xFB47, .mapped [0x05E7, 0x05BC]), (0xFB48, .mapped [0x05E8, 0x05BC]), (0xFB49, .mapped [0x05E9, 0x05BC]),
   (0xFB4A, .mapped [0x05EA, 0x05BC]), (0xFB4B, .mapped [0x05D5, 0x05B9]), (0xFB4C, .mapped [0x05D1, 0x05BF]),
   (0xFB4D, .mapped [0x05DB, 0x05BF]), (0xFB4E, .mapped [0x05E4, 0x05BF]), (0xFB4F, .mapped [0x05D0, 0x05DC]),
   (0xFB50, .mapped [0x0671]), (0xFB52, .mapped [0x067B]), (0xFB56, .mapped [0x067E]),
   (0xFB5A, .mapped [0x0680]), (0xFB5E, .mapped [0x067A]), (0xFB62, .mapped [0x067F]),
   (0xFB66, .mapped [0x0679]), (0xFB6A, .mapped [0x06A4]), (0xFB6E, .mapped [0x06A6]),
   (0xFB72, .mapped [0x0684]), (0xFB76, .mapped [0x0683]), (0xFB7A, .mapped [0x0686]),
   (0xFB7E, .mapped [0x0687]), (0xFB82, .mapped [0x068D]), (0xFB84, .mapped [0x068C]),
   (0xFB86, .mapped [0x068E]), (0xFB88, .mapped [0x0688]), (0xFB8A, .mapped [0x0698]),
   (0xFB8C, .mapped [0x0691]), (0xFB8E, .mapped [0x06A9]), (0xFB92, .mapped [0x06AF]),
   (0xFB96, .mapped [0x06B3]), (0xFB9A, .mapped [0x06B1]), (0xFB9E, .mapped [0x06BA]),
   (0xFBA0, .mapped [0x06BB]), (0xFBA4, .mapped [0x06C0]), (0xFBA6, .mapped [0x06C1]),
   (0xFBAA, .mapped [0x06BE]), (0xFBAE, .mapped [0x06D2]), (0xFBB0, .mapped [0x06D3]),
   (0xFBB2, .valid), (0xFBD3, .mapped [0x06AD]), (0xFBD7, .mapped [0x06C7]),
   (0xFBD9, .mapped [0x06C6]), (0xFBDB, .mapped [0x06C8]), (0xFBDD, .mapped [0x06C7, 0x0674]),
   (0xFBDE, .mapped [0x06CB]), (0xFBE0, .mapped [0x06C5]), (0xFBE2, .mapped [0x06C9]),
   (0xFBE4, .mapped [0x06D0]), (0xFBE8, .mapped [0x0649]), (0xFBEA, .mapped [0x0626, 0x0627]),
   (0xFBEC, .mapped [0x0626, 0x06D5]), (0xFBEE, .mapped [0x0626, 0x0648]), (0xFBF0, .mapped [0x0626, 0x06C7]),
   (0xFBF2, .mapped [0x0626, 0x06C6]), (0xFBF4, .mapped [0x0626, 0x06C8]), (0xFBF6, .mapped [0x0626, 0x06D0]),
   (0xFBF9, .mapped [0x0626, 0x0649]), (0xFBFC, .mapped [0x06CC]), (0xFC00, .mapped [0x0626, 0x062C]),
   (0xFC01, .mapped [0x0626, 0x062D]), (0xFC02, .mapped [0x0626, 0x0645]), (0xFC03, .mapped [0x0626, 0x0649]),
   (0xFC04, .mapped [0x0626, 0x064A]), (0xFC05, .mapped [0x0628, 0x062C]), (0xFC06, .mapped [0x0628, 0x062D]),
   (0xFC07, .mapped [0x0628, 0x062E]), (0xFC08, .mapped [0x0628, 0x0645]), (0xFC09, .mapped [0x0628, 0x0649]),
   (0xFC0A, .mapped [0x0628, 0x064A]), (0xFC0B, .mapped [0x062A, 0x062C]), (0xFC0C, .mapped [0x062A, 0x062D]),
   (0xFC0D, .mapped [0x062A, 0x062E]), (0xFC0E, .mapped [0x062A, 0x0645]), (0xFC0F, .mapped [0x062A, 0x0649]),
   (0xFC10, .mapped [0x062A, 0x064A]), (0xFC11, .mapped [0x062B, 0x062C]), (0xFC12, .mapped [0x062B, 0x0645]),
   (0xFC13, .mapped [0x062B, 0x0649]), (0xFC14, .mapped [0x062B, 0x064A]), (0xFC15, .mapped [0x062C, 0x062D]),
   (0xFC16, .mapped [0x062C, 0x0645]), (0xFC17, .mapped [0x062D, 0x062C]), (0xFC18, .mapped [0x062D, 0x0645]),
   (0xFC19, .mapped [0x062E, 0x062C]), (0xFC1A, .mapped [0x062E, 0x062D]), (0xFC1B, .mapped [0x062E, 0x0645]),
   (0xFC1C, .mapped [0x0633, 0x062C]), (0xFC1D, .mapped [0x0633, 0x062D]), (0xFC1E, .mapped [0x0633, 0x062E]),
   (0xFC1F, .mapped [0x0633, 0x0645]), (0xFC20, .mapped [0x0635, 0x062D]), (0xFC21, .mapped [0x0635, 0x0645]),
   (0xFC22, .mapped [0x0636, 0x062C]), (0xFC23, .mapped [0x0636, 0x062D]), (0xFC24, .mapped [0x0636, 0x062E]),
   (0xFC25, .mapped [0x0636, 0x0645]), (0xFC26, .mapped [0x0637, 0x062D]), (0xFC27, .mapped [0x0637, 0x0645]),
   (0xFC28, .mapped [0x0638, 0x0645]), (0xFC29, .mapped [0x0639, 0x062C]), (0xFC2A, .mapped [0x0639, 0x0645]),
   (0xFC2B, .mapped [0x063A, 0x062C]), (0xFC2C, .mapped [0x063A, 0x0645]), (0xFC2D, .mapped [0x0641, 0x062C]),
   (0xFC2E, .mapped [0x0641, 0x062D]), (0xFC2F, .mapped [0x0641, 0x062E]), (0xFC30, .mapped [0x0641, 0x0645]),
   (0xFC31, .mapped [0x0641, 0x0649]), (0xFC32, .mapped [0x0641, 0x064A]), (0xFC33, .mapped [0x0642, 0x062D]),
   (0xFC34, .mapped [0x0642, 0x0645]), (0xFC35, .mapped [0x0642, 0x0649]), (0xFC36, .mapped [0x0642, 0x064A]),
   (0xFC37, .mapped [0x0643, 0x0627]), (0xFC38, .mapped [0x0643, 0x062C]), (0xFC39, .mapped [0x0643, 0x062D]),
   (0xFC3A, .mapped [0x0643, 0x062E]), (0xFC3B, .mapped [0x0643, 0x0644]), (0xFC3C, .mapped [0x0643, 0x0645]),
   (0xFC3D, .mapped [0x0643, 0x0649]), (0xFC3E, .mapped [0x0643, 0x064A]), (0xFC3F, .mapped [0x0644, 0x062C]),
   (0xFC40, .mapped [0x0644, 0x062D]), (0xFC41, .mapped [0x0644, 0x062E]), (0xFC42, .mapped [0x0644, 0x0645]),
   (0xFC43, .mapped [0x0644, 0x0649]), (0xFC44, .mapped [0x0644, 0x064A]), (0xFC45, .mapped [0x0645, 0x062C]),
   (0xFC46, .mapped [0x0645, 0x062D]), (0xFC47, .mapped [0x0645, 0x062E]), (0xFC48, .mapped [0x0645, 0x0645]),
   (0xFC49, .mapped [0x0645, 0x0649]), (0xFC4A, .mapped [0x0645, 0x064A]), (0xFC4B, .mapped [0x0646, 0x062C]),
   (0xFC4C, .mapped [0x0646, 0x062D]), (0xFC4D, .mapped [0x0646, 0x062E]), (0xFC4E, .mapped [0x0646, 0x0645]),
   (0xFC4F, .mapped [0x0646, 0x0649]), (0xFC50, .mapped [0x0646, 0x064A]), (0xFC51, .mapped [0x0647, 0x062C]),
   (0xFC52, .mapped [0x0647, 0x0645]), (0xFC53, .mapped [0x0647, 0x0649]), (0xFC54, .mapped [0x0647, 0x064A]),
   (0xFC55, .mapped [0x064A, 0x062C]), (0xFC56, .mapped [0x064A, 0x062D]), (0xFC57, .mapped [0x064A, 0x062E]),
   (0xFC58, .mapped [0x064A, 0x0645]), (0xFC59, .mapped [0x064A, 0x0649]), (0xFC5A, .mapped [0x064A, 0x064A]),
   (0xFC5B, .mapped [0x0630, 0x0670]), (0xFC5C, .mapped [0x0631, 0x0670]), (0xFC5D, .mapped [0x0649, 0x0670]),
   (0xFC5E, .mapped [0x0020, 0x064C, 0x0651]), (0xFC5F, .mapped [0x0020, 0x064D, 0x0651]), (0xFC60, .mapped [0x0020, 0x064E, 0x0651]),
   (0xFC61, .mapped [0x0020, 0x064F, 0x0651]), (0xFC62, .mapped [0x0020, 0x0650, 0x0651]), (0xFC63, .mapped [0x0020, 0x0651, 0x0670]),
   (0xFC64, .mapped [0x0626, 0x0631]), (0xFC65, .mapped [0x0626, 0x0632]), (0xFC66, .mapped [0x0626, 0x0645]),
   (0xFC67, .mapped [0x0626, 0x0646]), (0xFC68, .mapped [0x0626, 0x0649]), (0xFC69, .mapped [0x0626, 0x064A]),
   (0xFC6A, .mapped [0x0628, 0x0631]), (0xFC6B, .mapped [0x0628, 0x0632]), (0xFC6C, .mapped [0x0628, 0x0645]),
   (0xFC6D, .mapped [0x0628, 0x0646]), (0xFC6E, .mapped [0x0628, 0x0649]), (0xFC6F, .mapped [0x0628, 0x064A]),
   (0xFC70, .mapped [0x062A, 0x0631]), (0xFC71, .mapped [0x062A, 0x0632]), (0xFC72, .mapped [0x062A, 0x0645]),
   (0xFC73, .mapped [0x062A, 0x0646]), (0xFC74, .mapped [0x062A, 0x0649]), (0xFC75, .mapped [0x062A, 0x064A]),
   (0xFC76, .mapped [0x062B, 0x0631]), (0xFC77, .mapped [0x062B, 0x0632]), (0xFC78, .mapped [0x062B, 0x0645]),
   (0xFC79, .mapped [0x062B, 0x0646]), (0xFC7A, .mapped [0x062B, 0x0649]), (0xFC7B, .mapped [0x062B, 0x064A]),
   (0xFC7C, .mapped [0x0641, 0x0649]), (0xFC7D, .mapped [0x0641, 0x064A]), (0xFC7E, .mapped [0x0642, 0x0649]),
   (0xFC7F, .mapped [0x0642, 0x064A]), (0xFC80, .mapped [0x0643, 0x0627]), (0xFC81, .mapped [0x0643, 0x0644]),
   (0xFC82, .mapped [0x0643, 0x0645]), (0xFC83, .mapped [0x0643, 0x0649]), (0xFC84, .mapped [0x0643, 0x064A]),
   (0xFC85, .mapped [0x0644, 0x0645]), (0xFC86, .mapped [0x0644, 0x0649]), (0xFC87, .mapped [0x0644, 0x064A]),
   (0xFC88, .mapped [0x0645, 0x0627]), (0xFC89, .mapped [0x0645, 0x0645]), (0xFC8A, .mapped [0x0646, 0x0631]),
   (0xFC8B, .mapped [0x0646, 0x0632]), (0xFC8C, .mapped [0x0646, 0x0645]), (0xFC8D, .mapped [0x0646, 0x0646]),
   (0xFC8E, .mapped [0x0646, 0x0649]), (0xFC8F, .mapped [0x0646, 0x064A]), (0xFC90, .mapped [0x0649, 0x0670]),
   (0xFC91, .mapped [0x064A, 0x0631]), (0xFC92, .mapped [0x064A, 0x0632]), (0xFC93, .mapped [0x064A, 0x0645]),
   (0xFC94, .mapped [0x064A, 0x0646]), (0xFC95, .mapped [0x064A, 0x0649]), (0xFC96, .mapped [0x064A, 0x064A]),
   (0xFC97, .mapped [0x0626, 0x062C]), (0xFC98, .mapped [0x0626, 0x062D]), (0xFC99, .mapped [0x0626, 0x062E]),
   (0xFC9A, .mapped [0x0626, 0x0645]), (0xFC9B, .mapped [0x0626, 0x0647]), (0xFC9C, .mapped [0x0628, 0x062C]),
   (0xFC9D, .mapped [0x0628, 0x062D]), (0xFC9E, .mapped [0x0628, 0x062E]), (0xFC9F, .mapped [0x0628, 0x0645]),
   (0xFCA0, .mapped [0x0628, 0x0647]), (0xFCA1, .mapped [0x062A, 0x062C]), (0xFCA2, .mapped [0x062A, 0x062D]),
   (0xFCA3, .mapped [0x062A, 0x062E]), (0xFCA4, .mapped [0x062A, 0x0645]), (0xFCA5, .mapped [0x062A, 0x0647]),
   (0xFCA6, .mapped [0x062B, 0x0645]), (0xFCA7, .mapped [0x062C, 0x062D]), (0xFCA8, .mapped [0x062C, 0x0645]),
   (0xFCA9, .mapped [0x062D, 0x062C]), (0xFCAA, .mapped [0x062D, 0x0645]), (0xFCAB, .mapped [0x062E, 0x062C]),
   (0xFCAC, .mapped [0x062E, 0x0645]), (0xFCAD, .mapped [0x0633, 0x062C]), (0xFCAE, .mapped [0x0633, 0x062D]),
   (0xFCAF, .mapped [0x0633, 0x062E]), (0xFCB0, .mapped [0x0633, 0x0645]), (0xFCB1, .mapped [0x0635, 0x062D]),
   (0xFCB2, .mapped [0x0635, 0x062E]), (0xFCB3, .mapped [0x0635, 0x0645]), (0xFCB4, .mapped [0x0636, 0x062C]),
   (0xFCB5, .mapped [0x0636, 0x062D]), (0xFCB6, .mapped [0x0636, 0x062E]), (0xFCB7, .mapped [0x0636, 0x0645]),
   (0xFCB8, .mapped [0x0637, 0x062D]), (0xFCB9, .mapped [0x0638, 0x0645]), (0xFCBA, .mapped [0x0639, 0x062C]),
   (0xFCBB, .mapped [0x0639, 0x0645]), (0xFCBC, .mapped [0x063A, 0x062C]), (0xFCBD, .mapped [0x063A, 0x0645]),
   (0xFCBE, .mapped [0x0641, 0x062C]), (0xFCBF, .mapped [0x0641, 0x062D]), (0xFCC0, .mapped [0x0641, 0x062E]),
   (0xFCC1, .mapped [0x0641, 0x0645]), (0xFCC2, .mapped [0x0642, 0x062D]), (0xFCC3, .mapped [0x0642, 0x0645]),
   (0xFCC4, .mapped [0x0643, 0x062C]), (0xFCC5, .mapped [0x0643, 0x062D]), (0xFCC6, .mapped [0x0643, 0x062E]),
   (0xFCC7, .mapped [0x0643, 0x0644]), (0xFCC8, .mapped [0x0643, 0x0645]), (0xFCC9, .mapped [0x0644, 0x062C]),
   (0xFCCA, .mapped [0x0644, 0x062D]), (0xFCCB, .mapped [0x0644, 0x062E]), (0xFCCC, .mapped [0x0644, 0x0645]),
   (0xFCCD, .mapped [0x0644, 0x0647]), (0xFCCE, .mapped [0x0645, 0x062C]), (0xFCCF, .mapped [0x0645, 0x062D]),
   (0xFCD0, .mapped [0x0645, 0x062E]), (0xFCD1, .mapped [0x0645, 0x0645]), (0xFCD2, .mapped [0x0646, 0x062C]),
   (0xFCD3, .mapped [0x0646, 0x062D]), (0xFCD4, .mapped [0x0646, 0x062E]), (0xFCD5, .mapped [0x0646, 0x0645]),
   (0xFCD6, .mapped [0x0646, 0x0647]), (0xFCD7, .mapped [0x0647, 0x062C]), (0xFCD8, .mapped [0x0647, 0x0645]),
   (0xFCD9, .mapped [0x0647, 0x0670]), (0xFCDA, .mapped [0x064A, 0x062C]), (0xFCDB, .mapped [0x064A, 0x062D])]

/-- Entries 3000 onwards of `idnaStarts`. -/
def idnaStartsPart5 : List (Nat × IdnaStatus) :=
  [(0xFCDC, .mapped [0x064A, 0x062E]), (0xFCDD, .mapped [0x064A, 0x0645]), (0xFCDE, .mapped [0x064A, 0x0647]),
   (0xFCDF, .mapped [0x0626, 0x0645]), (0xFCE0, .mapped [0x0626, 0x0647]), (0xFCE1, .mapped [0x0628, 0x0645]),
   (0xFCE2, .mapped [0x0628, 0x0647]), (0xFCE3, .mapped [0x062A, 0x0645]), (0xFCE4, .mapped [0x062A, 0x0647]),
   (0xFCE5, .mapped [0x062B, 0x0645]), (0xFCE6, .mapped [0x062B, 0x0647]), (0xFCE7, .mapped [0x0633, 0x0645]),
   (0xFCE8, .mapped [0x0633, 0x0647]), (0xFCE9, .mapped [0x0634, 0x0645]), (0xFCEA, .mapped [0x0634, 0x0647]),
   (0xFCEB, .mapped [0x0643, 0x0644]), (0xFCEC, .mapped [0x0643, 0x0645]), (0xFCED, .mapped [0x0644, 0x0645]),
   (0xFCEE, .mapped [0x0646, 0x0645]), (0xFCEF, .mapped [0x0646, 0x0647]), (0xFCF0, .mapped [0x064A, 0x0645]),
   (0xFCF1, .mapped [0x064A, 0x0647]), (0xFCF2, .mapped [0x0640, 0x064E, 0x0651]), (0xFCF3, .mapped [0x0640, 0x064F, 0x0651]),
   (0xFCF4, .mapped [0x0640, 0x0650, 0x0651]), (0xFCF5, .mapped [0x0637, 0x0649]), (0xFCF6, .mapped [0x0637, 0x064A]),
   (0xFCF7, .mapped [0x0639, 0x0649]), (0xFCF8, .mapped [0x0639, 0x064A]), (0xFCF9, .mapped [0x063A, 0x0649]),
   (0xFCFA, .mapped [0x063A, 0x064A]), (0xFCFB, .mapped [0x0633, 0x0649]), (0xFCFC, .mapped [0x0633, 0x064A]),
   (0xFCFD, .mapped [0x0634, 0x0649]), (0xFCFE, .mapped [0x0634, 0x064A]), (0xFCFF, .mapped [0x062D, 0x0649]),
   (0xFD00, .mapped [0x062D, 0x064A]), (0xFD01, .mapped [0x062C, 0x0649]), (0xFD02, .mapped [0x062C, 0x064A]),
   (0xFD03, .mapped [0x062E, 0x0649]), (0xFD04, .mapped [0x062E, 0x064A]), (0xFD05, .mapped [0x0635, 0x0649]),
   (0xFD06, .mapped [0x0635, 0x064A]), (0xFD07, .mapped [0x0636, 0x0649]), (0xFD08, .mapped [0x0636, 0x064A]),
   (0xFD09, .mapped [0x0634, 0x062C]), (0xFD0A, .mapped [0x0634, 0x062D]), (0xFD0B, .mapped [0x0634, 0x062E]),
   (0xFD0C, .mapped [0x0634, 0x0645]), (0xFD0D, .mapped [0x0634, 0x0631]), (0xFD0E, .mapped [0x0633, 0x0631]),
   (0xFD0F, .mapped [0x0635, 0x0631]), (0xFD10, .mapped [0x0636, 0x0631]), (0xFD11, .mapped [0x0637, 0x0649]),
   (0xFD12, .mapped [0x0637, 0x064A]), (0xFD13, .mapped [0x0639, 0x0649]), (0xFD14, .mapped [0x0639, 0x064A]),
   (0xFD15, .mapped [0x063A, 0x0649]), (0xFD16, .mapped [0x063A, 0x064A]), (0xFD17, .mapped [0x0633, 0x0649]),
   (0xFD18, .mapped [0x0633, 0x064A]), (0xFD19, .mapped [0x0634, 0x0649]), (0xFD1A, .mapped [0x0634, 0x064A]),
   (0xFD1B, .mapped [0x062D, 0x0649]), (0xFD1C, .mapped [0x062D, 0x064A]), (0xFD1D, .mapped [0x062C, 0x0649]),
   (0xFD1E, .mapped [0x062C, 0x064A]), (0xFD1F, .mapped [0x062E, 0x0649]), (0xFD20, .mapped [0x062E, 0x064A]),
   (0xFD21, .mapped [0x0635, 0x0649]), (0xFD22, .mapped [0x0635, 0x064A]), (0xFD23, .mapped [0x0636, 0x0649]),
   (0xFD24, .mapped [0x0636, 0x064A]), (0xFD25, .mapped [0x0634, 0x062C]), (0xFD26, .mapped [0x0634, 0x062D]),
   (0xFD27, .mapped [0x0634, 0x062E]), (0xFD28, .mapped [0x0634, 0x0645]), (0xFD29, .mapped [0x0634, 0x0631]),
   (0xFD2A, .mapped [0x0633, 0x0631]), (0xFD2B, .mapped [0x0635, 0x0631]), (0xFD2C, .mapped [0x0636, 0x0631]),
   (0xFD2D, .mapped [0x0634, 0x062C]), (0xFD2E, .mapped [0x0634, 0x062D]), (0xFD2F, .mapped [0x0634, 0x062E]),
   (0xFD30, .mapped [0x0634, 0x0645]), (0xFD31, .mapped [0x0633, 0x0647]), (0xFD32, .mapped [0x0634, 0x0647]),
   (0xFD33, .mapped [0x0637, 0x0645]), (0xFD34, .mapped [0x0633, 0x062C]), (0xFD35, .mapped [0x0633, 0x062D]),
   (0xFD36, .mapped [0x0633, 0x062E]), (0xFD37, .mapped [0x0634, 0x062C]), (0xFD38, .mapped [0x0634, 0x062D]),
   (0xFD39, .mapped [0x0634, 0x062E]), (0xFD3A, .mapped [0x0637, 0x0645]), (0xFD3B, .mapped [0x0638, 0x0645]),
   (0xFD3C, .mapped [0x0627, 0x064B]), (0xFD3E, .valid), (0xFD50, .mapped [0x062A, 0x062C, 0x0645]),
   (0xFD51, .mapped [0x062A, 0x062D, 0x062C]), (0xFD53, .mapped [0x062A, 0x062D, 0x0645]), (0xFD54, .mapped [0x062A, 0x062E, 0x0645]),
   (0xFD55, .mapped [0x062A, 0x0645, 0x062C]), (0xFD56, .mapped [0x062A, 0x0645, 0x062D]), (0xFD57, .mapped [0x062A, 0x0645, 0x062E]),
   (0xFD58, .mapped [0x062C, 0x0645, 0x062D]), (0xFD5A, .mapped [0x062D, 0x0645, 0x064A]), (0xFD5B, .mapped [0x062D, 0x0645, 0x0649]),
   (0xFD5C, .mapped [0x0633, 0x062D, 0x062C]), (0xFD5D, .mapped [0x0633, 0x062C, 0x062D]), (0xFD5E, .mapped [0x0633, 0x062C, 0x0649]),
   (0xFD5F, .mapped [0x0633, 0x0645, 0x062D]), (0xFD61, .mapped [0x0633, 0x0645, 0x062C]), (0xFD62, .mapped [0x0633, 0x0645, 0x0645]),
   (0xFD64, .mapped [0x0635, 0x062D, 0x062D]), (0xFD66, .mapped [0x0635, 0x0645, 0x0645]), (0xFD67, .mapped [0x0634, 0x062D, 0x0645]),
   (0xFD69, .mapped [0x0634, 0x062C, 0x064A]), (0xFD6A, .mapped [0x0634, 0x0645, 0x062E]), (0xFD6C, .mapped [0x0634, 0x0645, 0x0645]),
   (0xFD6E, .mapped [0x0636, 0x062D, 0x0649]), (0xFD6F, .mapped [0x0636, 0x062E, 0x0645]), (0xFD71, .mapped [0x0637, 0x0645, 0x062D]),
   (0xFD73, .mapped [0x0637, 0x0645, 0x0645]), (0xFD74, .mapped [0x0637, 0x0645, 0x064A]), (0xFD75, .mapped [0x0639, 0x062C, 0x0645]),
   (0xFD76, .mapped [0x0639, 0x0645, 0x0645]), (0xFD78, .mapped [0x0639, 0x0645, 0x0649]), (0xFD79, .mapped [0x063A, 0x0645, 0x0645]),
   (0xFD7A, .mapped [0x063A, 0x0645, 0x064A]), (0xFD7B, .mapped [0x063A, 0x0645, 0x0649]), (0xFD7C, .mapped [0x0641, 0x062E, 0x0645]),
   (0xFD7E, .mapped [0x0642, 0x0645, 0x062D]), (0xFD7F, .mapped [0x0642, 0x0645, 0x0645]), (0xFD80, .mapped [0x0644, 0x062D, 0x0645]),
   (0xFD81, .mapped [0x0644, 0x062D, 0x064A]), (0xFD82, .mapped [0x0644, 0x062D, 0x0649]), (0xFD83, .mapped [0x0644, 0x062C, 0x062C]),
   (0xFD85, .mapped [0x0644, 0x062E, 0x0645]), (0xFD87, .mapped [0x0644, 0x0645, 0x062D]), (0xFD89, .mapped [0x0645, 0x062D, 0x062C]),
   (0xFD8A, .mapped [0x0645, 0x062D, 0x0645]), (0xFD8B, .mapped [0x0645, 0x062D, 0x064A]), (0xFD8C, .mapped [0x0645, 0x062C, 0x062D]),
   (0xFD8D, .mapped [0x0645, 0x062C, 0x0645]), (0xFD8E, .mapped [0x0645, 0x062E, 0x062C]), (0xFD8F, .mapped [0x0645, 0x062E, 0x0645]),
   (0xFD90, .valid), (0xFD92, .mapped [0x0645, 0x062C, 0x062E]), (0xFD93, .mapped [0x0647, 0x0645, 0x062C]),
   (0xFD94, .mapped [0x0647, 0x0645, 0x0645]), (0xFD95, .mapped [0x0646, 0x062D, 0x0645]), (0xFD96, .mapped [0x0646, 0x062D, 0x0649]),
   (0xFD97, .mapped [0x0646, 0x062C, 0x0645]), (0xFD99, .mapped [0x0646, 0x062C, 0x0649]), (0xFD9A, .mapped [0x0646, 0x0645, 0x064A]),
   (0xFD9B, .mapped [0x0646, 0x0645, 0x0649]), (0xFD9C, .mapped [0x064A, 0x0645, 0x0645]), (0xFD9E, .mapped [0x0628, 0x062E, 0x064A]),
   (0xFD9F, .mapped [0x062A, 0x062C, 0x064A]), (0xFDA0, .mapped [0x062A, 0x062C, 0x0649]), (0xFDA1, .mapped [0x062A, 0x062E, 0x064A]),
   (0xFDA2, .mapped [0x062A, 0x062E, 0x0649]), (0xFDA3, .mapped [0x062A, 0x0645, 0x064A]), (0xFDA4, .mapped [0x062A, 0x0645, 0x0649]),
   (0xFDA5, .mapped [0x062C, 0x0645, 0x064A]), (0xFDA6, .mapped [0x062C, 0x062D, 0x0649]), (0xFDA7, .mapped [0x062C, 0x0645, 0x0649]),
   (0xFDA8, .mapped [0x0633, 0x062E, 0x0649]), (0xFDA9, .mapped [0x0635, 0x062D, 0x064A]), (0xFDAA, .mapped [0x0634, 0x062D, 0x064A]),
   (0xFDAB, .mapped [0x0636, 0x062D, 0x064A]), (0xFDAC, .mapped [0x0644, 0x062C, 0x064A]), (0xFDAD, .mapped [0x0644, 0x0645, 0x064A]),
   (0xFDAE, .mapped [0x064A, 0x062D, 0x064A]), (0xFDAF, .mapped [0x064A, 0x062C, 0x064A]), (0xFDB0, .mapped [0x064A, 0x0645, 0x064A]),
   (0xFDB1, .mapped [0x0645, 0x0645, 0x064A]), (0xFDB2, .mapped [0x0642, 0x0645, 0x064A]), (0xFDB3, .mapped [0x0646, 0x062D, 0x064A]),
   (0xFDB4, .mapped [0x0642, 0x0645, 0x062D]), (0xFDB5, .mapped [0x0644, 0x062D, 0x0645]), (0xFDB6, .mapped [0x0639, 0x0645, 0x064A]),
   (0xFDB7, .mapped [0x0643, 0x0645, 0x064A]), (0xFDB8, .mapped [0x0646, 0x062C, 0x062D]), (0xFDB9, .mapped [0x0645, 0x062E, 0x064A]),
   (0xFDBA, .mapped [0x0644, 0x062C, 0x0645]), (0xFDBB, .mapped [0x0643, 0x0645, 0x0645]), (0xFDBC, .mapped [0x0644, 0x062C, 0x0645]),
   (0xFDBD, .mapped [0x0646, 0x062C, 0x062D]), (0xFDBE, .mapped [0x062C, 0x062D, 0x064A]), (0xFDBF, .mapped [0x062D, 0x062C, 0x064A]),
   (0xFDC0, .mapped [0x0645, 0x062C, 0x064A]), (0xFDC1, .mapped [0x0641, 0x0645, 0x064A]), (0xFDC2, .mapped [0x0628, 0x062D, 0x064A]),
   (0xFDC3, .mapped [0x0643, 0x0645, 0x0645]), (0xFDC4, .mapped [0x0639, 0x062C, 0x0645]), (0xFDC5, .mapped [0x0635, 0x0645, 0x0645]),
   (0xFDC6, .mapped [0x0633, 0x062E, 0x064A]), (0xFDC7, .mapped [0x0646, 0x062C, 0x064A]), (0xFDC8, .valid),
   (0xFDD0, .disallowed), (0xFDF0, .mapped [0x0635, 0x0644, 0x06D2]), (0xFDF1, .mapped [0x0642, 0x0644, 0x06D2]),
   (0xFDF2, .mapped [0x0627, 0x0644, 0x0644, 0x0647]), (0xFDF3, .mapped [0x0627, 0x0643, 0x0628, 0x0631]), (0xFDF4, .mapped [0x0645, 0x062D, 0x0645, 0x062F]),
   (0xFDF5, .mapped [0x0635, 0x0644, 0x0639, 0x0645]), (0xFDF6, .mapped [0x0631, 0x0633, 0x0648, 0x0644]), (0xFDF7, .mapped [0x0639, 0x0644, 0x064A, 0x0647]),
   (0xFDF8, .mapped [0x0648, 0x0633, 0x0644, 0x0645]), (0xFDF9, .mapped [0x0635, 0x0644, 0x0649]), (0xFDFA, .mapped [0x0635, 0x0644, 0x0649, 0x0020, 0x0627, 0x0644, 0x0644, 0x0647, 0x0020, 0x0639, 0x0644, 0x064A, 0x0647, 0x0020, 0x0648, 0x0633, 0x0644, 0x0645]),
   (0xFDFB, .mapped [0x062C, 0x0644, 0x0020, 0x062C, 0x0644, 0x0627, 0x0644, 0x0647]), (0xFDFC, .mapped [0x0631, 0x06CC, 0x0627, 0x0644]), (0xFDFD, .valid),
   (0xFE00, .ignored), (0xFE10, .mapped [0x002C]), (0xFE11, .mapped [0x3001]),
   (0xFE12, .disallowed), (0xFE13, .shifted (-64985)), (0xFE15, .mapped [0x0021]),
   (0xFE16, .mapped [0x003F]), (0xFE17, .shifted (-52737)), (0xFE19, .disallowed),
   (0xFE20, .valid), (0xFE30, .disallowed), (0xFE31, .mapped [0x2014]),
   (0xFE32, .mapped [0x2013]), (0xFE33, .mapped [0x005F]), (0xFE35, .shifted (-65037)),
   (0xFE37, .mapped [0x007B]), (0xFE38, .mapped [0x007D]), (0xFE39, .shifted (-52773)),
   (0xFE3B, .shifted (-52779)), (0xFE3D, .shifted (-52787)), (0xFE3F, .shifted (-52791)),
   (0xFE41, .shifted (-52789)), (0xFE45, .valid), (0xFE47, .mapped [0x005B]),
   (0xFE48, .mapped [0x005D]), (0xFE49, .mapped [0x0020, 0x0305]), (0xFE4D, .mapped [0x005F]),
   (0xFE50, .mapped [0x002C]), (0xFE51, .mapped [0x3001]), (0xFE52, .disallowed),
   (0xFE54, .mapped [0x003B]), (0xFE55, .mapped [0x003A]), (0xFE56, .mapped [0x003F]),
   (0xFE57, .mapped [0x0021]), (0xFE58, .mapped [0x2014]), (0xFE59, .shifted (-65073)),
   (0xFE5B, .mapped [0x007B]), (0xFE5C, .mapped [0x007D]), (0xFE5D, .shifted (-52809)),
   (0xFE5F, .mapped [0x0023]), (0xFE60, .mapped [0x0026]), (0xFE61, .shifted (-65079)),
   (0xFE63, .mapped [0x002D]), (0xFE64, .mapped [0x003C]), (0xFE65, .mapped [0x003E]),
   (0xFE66, .mapped [0x003D]), (0xFE67, .disallowed), (0xFE68, .mapped [0x005C]),
   (0xFE69, .shifted (-65093)), (0xFE6B, .mapped [0x0040]), (0xFE6C, .disallowed),
   (0xFE70, .mapped [0x0020, 0x064B]), (0xFE71, .mapped [0x0640, 0x064B]), (0xFE72, .mapped [0x0020, 0x064C]),
   (0xFE73, .valid), (0xFE74, .mapped [0x0020, 0x064D]), (0xFE75, .disallowed),
   (0xFE76, .mapped [0x0020, 0x064E]), (0xFE77, .mapped [0x0640, 0x064E]), (0xFE78, .mapped [0x0020, 0x064F]),
   (0xFE79, .mapped [0x0640, 0x064F]), (0xFE7A, .mapped [0x0020, 0x0650]), (0xFE7B, .mapped [0x0640, 0x0650]),
   (0xFE7C, .mapped [0x0020, 0x0651]), (0xFE7D, .mapped [0x0640, 0x0651]), (0xFE7E, .mapped [0x0020, 0x0652]),
   (0xFE7F, .mapped [0x0640, 0x0652]), (0xFE80, .mapped [0x0621]), (0xFE81, .mapped [0x0622]),
   (0xFE83, .mapped [0x0623]), (0xFE85, .mapped [0x0624]), (0xFE87, .mapped [0x0625]),
   (0xFE89, .mapped [0x0626]), (0xFE8D, .mapped [0x0627]), (0xFE8F, .mapped [0x0628]),
   (0xFE93, .mapped [0x0629]), (0xFE95, .mapped [0x062A]), (0xFE99, .mapped [0x062B]),
   (0xFE9D, .mapped [0x062C]), (0xFEA1, .mapped [0x062D]), (0xFEA5, .mapped [0x062E]),
   (0xFEA9, .mapped [0x062F]), (0xFEAB, .mapped [0x0630]), (0xFEAD, .mapped [0x0631]),
   (0xFEAF, .mapped [0x0632]), (0xFEB1, .mapped [0x0633]), (0xFEB5, .mapped [0x0634]),
   (0xFEB9, .mapped [0x0635]), (0xFEBD, .mapped [0x0636]), (0xFEC1, .mapped [0x0637]),
   (0xFEC5, .mapped [0x0638]), (0xFEC9, .mapped [0x0639]), (0xFECD, .mapped [0x063A]),
   (0xFED1, .mapped [0x0641]), (0xFED5, .mapped [0x0642]), (0xFED9, .mapped [0x0643]),
   (0xFEDD, .mapped [0x0644]), (0xFEE1, .mapped [0x0645]), (0xFEE5, .mapped [0x0646]),
   (0xFEE9, .mapped [0x0647]), (0xFEED, .mapped [0x0648]), (0xFEEF, .mapped [0x0649]),
   (0xFEF1, .mapped [0x064A]), (0xFEF5, .mapped [0x0644, 0x0622]), (0xFEF7, .mapped [0x0644, 0x0623]),
   (0xFEF9, .mapped [0x0644, 0x0625]), (0xFEFB, .mapped [0x0644, 0x0627]), (0xFEFD, .disallowed),
   (0xFEFF, .ignored), (0xFF00, .disallowed), (0xFF01, .shifted (-65248)),
   (0xFF21, .shifted (-65216)), (0xFF3B, .shifted (-65248)), (0xFF5F, .shifted (-54746)),
   (0xFF61, .mapped [0x002E]), (0xFF62, .shifted (-53078)), (0xFF64, .mapped [0x3001]),
   (0xFF65, .mapped [0x30FB]), (0xFF66, .mapped [0x30F2]), (0xFF67, .mapped [0x30A1]),
   (0xFF68, .mapped [0x30A3]), (0xFF69, .mapped [0x30A5]), (0xFF6A, .mapped [0x30A7]),
   (0xFF6B, .mapped [0x30A9]), (0xFF6C, .mapped [0x30E3]), (0xFF6D, .mapped [0x30E5]),
   (0xFF6E, .mapped [0x30E7]), (0xFF6F, .mapped [0x30C3]), (0xFF70, .mapped [0x30FC]),
   (0xFF71, .mapped [0x30A2]), (0xFF72, .mapped [0x30A4]), (0xFF73, .mapped [0x30A6]),
   (0xFF74, .mapped [0x30A8]), (0xFF75, .shifted (-52939)), (0xFF77, .mapped [0x30AD]),
   (0xFF78, .mapped [0x30AF]), (0xFF79, .mapped [0x30B1]), (0xFF7A, .mapped [0x30B3]),
   (0xFF7B, .mapped [0x30B5]), (0xFF7C, .mapped [0x30B7]), (0xFF7D, .mapped [0x30B9]),
   (0xFF7E, .mapped [0x30BB]), (0xFF7F, .mapped [0x30BD]), (0xFF80, .mapped [0x30BF]),
   (0xFF81, .mapped [0x30C1]), (0xFF82, .mapped [0x30C4]), (0xFF83, .mapped [0x30C6]),
   (0xFF84, .mapped [0x30C8]), (0xFF85, .shifted (-52923)), (0xFF8B, .mapped [0x30D2]),
   (0xFF8C, .mapped [0x30D5]), (0xFF8D, .mapped [0x30D8]), (0xFF8E, .mapped [0x30DB]),
   (0xFF8F, .shifted (-52913)), (0xFF94, .mapped [0x30E4]), (0xFF95, .mapped [0x30E6]),
   (0xFF96, .shifted (-52910)), (0xFF9C, .mapped [0x30EF]), (0xFF9D, .mapped [0x30F3]),
   (0xFF9E, .shifted (-52997)), (0xFFA0, .ignored), (0xFFA1, .shifted (-61089)),
   (0xFFA3, .mapped [0x11AA]), (0xFFA4, .mapped [0x1102]), (0xFFA5, .shifted (-60921)),
   (0xFFA7, .shifted (-61092)), (0xFFAA, .shifted (-60922)), (0xFFB0, .mapped [0x111A]),
   (0xFFB1, .shifted (-61099)), (0xFFB4, .mapped [0x1121]), (0xFFB5, .shifted (-61100)),
   (0xFFBF, .disallowed), (0xFFC2, .shifted (-61025)), (0xFFC8, .disallowed),
   (0xFFCA, .shifted (-61027)), (0xFFD0, .disallowed), (0xFFD2, .shifted (-61029)),
   (0xFFD8, .disallowed), (0xFFDA, .shifted (-61031)), (0xFFDD, .disallowed),
   (0xFFE0, .shifted (-65342)), (0xFFE2, .mapped [0x00AC]), (0xFFE3, .mapped [0x0020, 0x0304]),
   (0xFFE4, .mapped [0x00A6]), (0xFFE5, .mapped [0x00A5]), (0xFFE6, .mapped [0x20A9]),
   (0xFFE7, .disallowed), (0xFFE8, .mapped [0x2502]), (0xFFE9, .shifted (-56921)),
   (0xFFED, .mapped [0x25A0]), (0xFFEE, .mapped [0x25CB]), (0xFFEF, .disallowed),
   (0x10000, .valid), (0x1000C, .disallowed), (0x1000D, .valid),
   (0x10027, .disallowed), (0x10028, .valid), (0x1003B, .disallowed),
   (0x1003C, .valid), (0x1003E, .disallowed), (0x1003F, .valid),
   (0x1004E, .disallowed), (0x10050, .valid), (0x1005E, .disallowed),
   (0x10080, .valid), (0x100FB, .disallowed), (0x10100, .valid),
   (0x10103, .disallowed), (0x10107, .valid), (0x10134, .disallowed),
   (0x10137, .valid), (0x1018F, .disallowed), (0x10190, .valid),
   (0x1019D, .disallowed), (0x101A0, .valid), (0x101A1, .disallowed),
   (0x101D0, .valid), (0x101FE, .disallowed), (0x10280, .valid),
   (0x1029D, .disallowed), (0x102A0, .valid), (0x102D1, .disallowed),
   (0x102E0, .valid), (0x102FC, .disallowed), (0x10300, .valid),
   (0x10324, .disallowed), (0x1032D, .valid), (0x1034B, .disallowed),
   (0x10350, .valid), (0x1037B, .disallowed), (0x10380, .valid),
   (0x1039E, .disallowed), (0x1039F, .valid), (0x103C4, .disallowed),
   (0x103C8, .valid), (0x103D6, .disallowed), (0x10400, .shifted (40)),
   (0x10428, .valid), (0x1049E, .disallowed), (0x104A0, .valid),
   (0x104AA, .disallowed), (0x104B0, .shifted (40)), (0x104D4, .disallowed),
   (0x104D8, .valid), (0x104FC, .disallowed), (0x10500, .valid),
   (0x10528, .disallowed), (0x10530, .valid), (0x10564, .disallowed),
   (0x1056F, .valid), (0x10570, .shifted (39)), (0x1057B, .disallowed),
   (0x1057C, .shifted (39)), (0x1058B, .disallowed), (0x1058C, .shifted (39)),
   (0x10593, .disallowed), (0x10594, .shifted (39)), (0x10596, .disallowed),
   (0x10597, .valid), (0x105A2, .disallowed), (0x105A3, .valid),
   (0x105B2, .disallowed), (0x105B3, .valid), (0x105BA, .disallowed),
   (0x105BB, .valid), (0x105BD, .disallowed), (0x105C0, .valid),
   (0x105F4, .disallowed), (0x10600, .valid), (0x10737, .disallowed),
   (0x10740, .valid), (0x10756, .disallowed), (0x10760, .valid),
   (0x10768, .disallowed), (0x10780, .valid), (0x10781, .shifted (-66737)),
   (0x10783, .mapped [0x00E6]), (0x10784, .mapped [0x0299]), (0x10785, .mapped [0x0253]),
   (0x10786, .disallowed), (0x10787, .mapped [0x02A3]), (0x10788, .mapped [0xAB66]),
   (0x10789, .mapped [0x02A5]), (0x1078A, .mapped [0x02A4]), (0x1078B, .shifted (-66869)),
   (0x1078D, .mapped [0x1D91]), (0x1078E, .mapped [0x0258]), (0x1078F, .mapped [0x025E]),
   (0x10790, .mapped [0x02A9]), (0x10791, .mapped [0x0264]), (0x10792, .mapped [0x0262]),
   (0x10793, .mapped [0x0260]), (0x10794, .mapped [0x029B]), (0x10795, .mapped [0x0127]),
   (0x10796, .mapped [0x029C]), (0x10797, .mapped [0x0267]), (0x10798, .mapped [0x0284]),
   (0x10799, .shifted (-66799)), (0x1079B, .mapped [0x026C]), (0x1079C, .mapped [0x1DF04]),
   (0x1079D, .mapped [0xA78E]), (0x1079E, .mapped [0x026E]), (0x1079F, .mapped [0x1DF05]),
   (0x107A0, .mapped [0x028E]), (0x107A1, .mapped [0x1DF06]), (0x107A2, .mapped [0x00F8]),
   (0x107A3, .shifted (-66861)), (0x107A5, .mapped [0x0071]), (0x107A6, .mapped [0x027A]),
   (0x107A7, .mapped [0x1DF08]), (0x107A8, .shifted (-66859)), (0x107AA, .mapped [0x0280]),
   (0x107AB, .mapped [0x02A8]), (0x107AC, .mapped [0x02A6]), (0x107AD, .mapped [0xAB67]),
   (0x107AE, .mapped [0x02A7]), (0x107AF, .mapped [0x0288]), (0x107B0, .mapped [0x2C71]),
   (0x107B1, .disallowed), (0x107B2, .mapped [0x028F]), (0x107B3, .shifted (-66834)),
   (0x107B5, .mapped [0x0298]), (0x107B6, .shifted (-67062)), (0x107B9, .mapped [0x1DF0A]),
   (0x107BA, .mapped [0x1DF1E]), (0x107BB, .disallowed), (0x10800, .valid),
   (0x10806, .disallowed), (0x10808, .valid), (0x10809, .disallowed),
   (0x1080A, .valid), (0x10836, .disallowed), (0x10837, .valid),
   (0x10839, .disallowed), (0x1083C, .valid), (0x1083D, .disallowed),
   (0x1083F, .valid), (0x10856, .disallowed), (0x10857, .valid),
   (0x1089F, .disallowed), (0x108A7, .valid), (0x108B0, .disallowed),
   (0x108E0, .valid), (0x108F3, .disallowed), (0x108F4, .valid),
   (0x108F6, .disallowed), (0x108FB, .valid), (0x1091C, .disallowed),
   (0x1091F, .valid), (0x1093A, .disallowed), (0x1093F, .valid),
   (0x1095A, .disallowed), (0x10980, .valid), (0x109B8, .disallowed),
   (0x109BC, .valid), (0x109D0, .disallowed), (0x109D2, .valid),
   (0x10A04, .disallowed), (0x10A05, .valid), (0x10A07, .disallowed),
   (0x10A0C, .valid), (0x10A14, .disallowed), (0x10A15, .valid),
   (0x10A18, .disallowed), (0x10A19, .valid), (0x10A36, .disallowed),
   (0x10A38, .valid), (0x10A3B, .disallowed), (0x10A3F, .valid),
   (0x10A49, .disallowed), (0x10A50, .valid), (0x10A59, .disallowed),
   (0x10A60, .valid), (0x10AA0, .disallowed), (0x10AC0, .valid),
   (0x10AE7, .disallowed), (0x10AEB, .valid), (0x10AF7, .disallowed),
   (0x10B00, .valid), (0x10B36, .disallowed), (0x10B39, .valid),
   (0x10B56, .disallowed), (0x10B58, .valid), (0x10B73, .disallowed)]

/-- Entries 3600 onwards of `idnaStarts`. -/
def idnaStartsPart6 : List (Nat × IdnaStatus) :=
  [(0x10B78, .valid), (0x10B92, .disallowed), (0x10B99, .valid),
   (0x10B9D, .disallowed), (0x10BA9, .valid), (0x10BB0, .disallowed),
   (0x10C00, .valid), (0x10C49, .disallowed), (0x10C80, .shifted (64)),
   (0x10CB3, .disallowed), (0x10CC0, .valid), (0x10CF3, .disallowed),
   (0x10CFA, .valid), (0x10D28, .disallowed), (0x10D30, .valid),
   (0x10D3A, .disallowed), (0x10D40, .valid), (0x10D50, .shifted (32)),
   (0x10D66, .disallowed), (0x10D69, .valid), (0x10D86, .disallowed),
   (0x10D8E, .valid), (0x10D90, .disallowed), (0x10E60, .valid),
   (0x10E7F, .disallowed), (0x10E80, .valid), (0x10EAA, .disallowed),
   (0x10EAB, .valid), (0x10EAE, .disallowed), (0x10EB0, .valid),
   (0x10EB2, .disallowed), (0x10EC2, .valid), (0x10EC8, .disallowed),
   (0x10ED0, .valid), (0x10ED9, .disallowed), (0x10EFA, .valid),
   (0x10F28, .disallowed), (0x10F30, .valid), (0x10F5A, .disallowed),
   (0x10F70, .valid), (0x10F8A, .disallowed), (0x10FB0, .valid),
   (0x10FCC, .disallowed), (0x10FE0, .valid), (0x10FF7, .disallowed),
   (0x11000, .valid), (0x1104E, .disallowed), (0x11052, .valid),
   (0x11076, .disallowed), (0x1107F, .valid), (0x110BD, .disallowed),
   (0x110BE, .valid), (0x110C3, .disallowed), (0x110D0, .valid),
   (0x110E9, .disallowed), (0x110F0, .valid), (0x110FA, .disallowed),
   (0x11100, .valid), (0x11135, .disallowed), (0x11136, .valid),
   (0x11148, .disallowed), (0x11150, .valid), (0x11177, .disallowed),
   (0x11180, .valid), (0x111E0, .disallowed), (0x111E1, .valid),
   (0x111F5, .disallowed), (0x11200, .valid), (0x11212, .disallowed),
   (0x11213, .valid), (0x11242, .disallowed), (0x11280, .valid),
   (0x11287, .disallowed), (0x11288, .valid), (0x11289, .disallowed),
   (0x1128A, .valid), (0x1128E, .disallowed), (0x1128F, .valid),
   (0x1129E, .disallowed), (0x1129F, .valid), (0x112AA, .disallowed),
   (0x112B0, .valid), (0x112EB, .disallowed), (0x112F0, .valid),
   (0x112FA, .disallowed), (0x11300, .valid), (0x11304, .disallowed),
   (0x11305, .valid), (0x1130D, .disallowed), (0x1130F, .valid),
   (0x11311, .disallowed), (0x11313, .valid), (0x11329, .disallowed),
   (0x1132A, .valid), (0x11331, .disallowed), (0x11332, .valid),
   (0x11334, .disallowed), (0x11335, .valid), (0x1133A, .disallowed),
   (0x1133B, .valid), (0x11345, .disallowed), (0x11347, .valid),
   (0x11349, .disallowed), (0x1134B, .valid), (0x1134E, .disallowed),
   (0x11350, .valid), (0x11351, .disallowed), (0x11357, .valid),
   (0x11358, .disallowed), (0x1135D, .valid), (0x11364, .disallowed),
   (0x11366, .valid), (0x1136D, .disallowed), (0x11370, .valid),
   (0x11375, .disallowed), (0x11380, .valid), (0x1138A, .disallowed),
   (0x1138B, .valid), (0x1138C, .disallowed), (0x1138E, .valid),
   (0x1138F, .disallowed), (0x11390, .valid), (0x113B6, .disallowed),
   (0x113B7, .valid), (0x113C1, .disallowed), (0x113C2, .valid),
   (0x113C3, .disallowed), (0x113C5, .valid), (0x113C6, .disallowed),
   (0x113C7, .valid), (0x113CB, .disallowed), (0x113CC, .valid),
   (0x113D6, .disallowed), (0x113D7, .valid), (0x113D9, .disallowed),
   (0x113E1, .valid), (0x113E3, .disallowed), (0x11400, .valid),
   (0x1145C, .disallowed), (0x1145D, .valid), (0x11462, .disallowed),
   (0x11480, .valid), (0x114C8, .disallowed), (0x114D0, .valid),
   (0x114DA, .disallowed), (0x11580, .valid), (0x115B6, .disallowed),
   (0x115B8, .valid), (0x115DE, .disallowed), (0x11600, .valid),
   (0x11645, .disallowed), (0x11650, .valid), (0x1165A, .disallowed),
   (0x11660, .valid), (0x1166D, .disallowed), (0x11680, .valid),
   (0x116BA, .disallowed), (0x116C0, .valid), (0x116CA, .disallowed),
   (0x116D0, .valid), (0x116E4, .disallowed), (0x11700, .valid),
   (0x1171B, .disallowed), (0x1171D, .valid), (0x1172C, .disallowed),
   (0x11730, .valid), (0x11747, .disallowed), (0x11800, .valid),
   (0x1183C, .disallowed), (0x118A0, .shifted (32)), (0x118C0, .valid),
   (0x118F3, .disallowed), (0x118FF, .valid), (0x11907, .disallowed),
   (0x11909, .valid), (0x1190A, .disallowed), (0x1190C, .valid),
   (0x11914, .disallowed), (0x11915, .valid), (0x11917, .disallowed),
   (0x11918, .valid), (0x11936, .disallowed), (0x11937, .valid),
   (0x11939, .disallowed), (0x1193B, .valid), (0x11947, .disallowed),
   (0x11950, .valid), (0x1195A, .disallowed), (0x119A0, .valid),
   (0x119A8, .disallowed), (0x119AA, .valid), (0x119D8, .disallowed),
   (0x119DA, .valid), (0x119E5, .disallowed), (0x11A00, .valid),
   (0x11A48, .disallowed), (0x11A50, .valid), (0x11AA3, .disallowed),
   (0x11AB0, .valid), (0x11AF9, .disallowed), (0x11B00, .valid),
   (0x11B0A, .disallowed), (0x11B60, .valid), (0x11B68, .disallowed),
   (0x11BC0, .valid), (0x11BE2, .disallowed), (0x11BF0, .valid),
   (0x11BFA, .disallowed), (0x11C00, .valid), (0x11C09, .disallowed),
   (0x11C0A, .valid), (0x11C37, .disallowed), (0x11C38, .valid),
   (0x11C46, .disallowed), (0x11C50, .valid), (0x11C6D, .disallowed),
   (0x11C70, .valid), (0x11C90, .disallowed), (0x11C92, .valid),
   (0x11CA8, .disallowed), (0x11CA9, .valid), (0x11CB7, .disallowed),
   (0x11D00, .valid), (0x11D07, .disallowed), (0x11D08, .valid),
   (0x11D0A, .disallowed), (0x11D0B, .valid), (0x11D37, .disallowed),
   (0x11D3A, .valid), (0x11D3B, .disallowed), (0x11D3C, .valid),
   (0x11D3E, .disallowed), (0x11D3F, .valid), (0x11D48, .disallowed),
   (0x11D50, .valid), (0x11D5A, .disallowed), (0x11D60, .valid),
   (0x11D66, .disallowed), (0x11D67, .valid), (0x11D69, .disallowed),
   (0x11D6A, .valid), (0x11D8F, .disallowed), (0x11D90, .valid),
   (0x11D92, .disallowed), (0x11D93, .valid), (0x11D99, .disallowed),
   (0x11DA0, .valid), (0x11DAA, .disallowed), (0x11DB0, .valid),
   (0x11DDC, .disallowed), (0x11DE0, .valid), (0x11DEA, .disallowed),
   (0x11EE0, .valid), (0x11EF9, .disallowed), (0x11F00, .valid),
   (0x11F11, .disallowed), (0x11F12, .valid), (0x11F3B, .disallowed),
   (0x11F3E, .valid), (0x11F5B, .disallowed), (0x11FB0, .valid),
   (0x11FB1, .disallowed), (0x11FC0, .valid), (0x11FF2, .disallowed),
   (0x11FFF, .valid), (0x1239A, .disallowed), (0x12400, .valid),
   (0x1246F, .disallowed), (0x12470, .valid), (0x12475, .disallowed),
   (0x12480, .valid), (0x12544, .disallowed), (0x12F90, .valid),
   (0x12FF3, .disallowed), (0x13000, .valid), (0x13430, .disallowed),
   (0x13440, .valid), (0x13456, .disallowed), (0x13460, .valid),
   (0x143FB, .disallowed), (0x14400, .valid), (0x14647, .disallowed),
   (0x16100, .valid), (0x1613A, .disallowed), (0x16800, .valid),
   (0x16A39, .disallowed), (0x16A40, .valid), (0x16A5F, .disallowed),
   (0x16A60, .valid), (0x16A6A, .disallowed), (0x16A6E, .valid),
   (0x16ABF, .disallowed), (0x16AC0, .valid), (0x16ACA, .disallowed),
   (0x16AD0, .valid), (0x16AEE, .disallowed), (0x16AF0, .valid),
   (0x16AF6, .disallowed), (0x16B00, .valid), (0x16B46, .disallowed),
   (0x16B50, .valid), (0x16B5A, .disallowed), (0x16B5B, .valid),
   (0x16B62, .disallowed), (0x16B63, .valid), (0x16B78, .disallowed),
   (0x16B7D, .valid), (0x16B90, .disallowed), (0x16D40, .valid),
   (0x16D7A, .disallowed), (0x16E40, .shifted (32)), (0x16E60, .valid),
   (0x16E9B, .disallowed), (0x16EA0, .shifted (27)), (0x16EB9, .disallowed),
   (0x16EBB, .valid), (0x16ED4, .disallowed), (0x16F00, .valid),
   (0x16F4B, .disallowed), (0x16F4F, .valid), (0x16F88, .disallowed),
   (0x16F8F, .valid), (0x16FA0, .disallowed), (0x16FE0, .valid),
   (0x16FE5, .disallowed), (0x16FF0, .valid), (0x16FF7, .disallowed),
   (0x17000, .valid), (0x18CD6, .disallowed), (0x18CFF, .valid),
   (0x18D1F, .disallowed), (0x18D80, .valid), (0x18DF3, .disallowed),
   (0x1AFF0, .valid), (0x1AFF4, .disallowed), (0x1AFF5, .valid),
   (0x1AFFC, .disallowed), (0x1AFFD, .valid), (0x1AFFF, .disallowed),
   (0x1B000, .valid), (0x1B123, .disallowed), (0x1B132, .valid),
   (0x1B133, .disallowed), (0x1B150, .valid), (0x1B153, .disallowed),
   (0x1B155, .valid), (0x1B156, .disallowed), (0x1B164, .valid),
   (0x1B168, .disallowed), (0x1B170, .valid), (0x1B2FC, .disallowed),
   (0x1BC00, .valid), (0x1BC6B, .disallowed), (0x1BC70, .valid),
   (0x1BC7D, .disallowed), (0x1BC80, .valid), (0x1BC89, .disallowed),
   (0x1BC90, .valid), (0x1BC9A, .disallowed), (0x1BC9C, .valid),
   (0x1BCA0, .ignored), (0x1BCA4, .disallowed), (0x1CC00, .valid),
   (0x1CCD6, .shifted (-117877)), (0x1CCF0, .shifted (-117952)), (0x1CCFA, .valid),
   (0x1CCFD, .disallowed), (0x1CD00, .valid), (0x1CEB4, .disallowed),
   (0x1CEBA, .valid), (0x1CED1, .disallowed), (0x1CEE0, .valid),
   (0x1CEF1, .disallowed), (0x1CF00, .valid), (0x1CF2E, .disallowed),
   (0x1CF30, .valid), (0x1CF47, .disallowed), (0x1CF50, .valid),
   (0x1CFC4, .disallowed), (0x1D000, .valid), (0x1D0F6, .disallowed),
   (0x1D100, .valid), (0x1D127, .disallowed), (0x1D129, .valid),
   (0x1D15E, .mapped [0x1D157, 0x1D165]), (0x1D15F, .mapped [0x1D158, 0x1D165]), (0x1D160, .mapped [0x1D158, 0x1D165, 0x1D16E]),
   (0x1D161, .mapped [0x1D158, 0x1D165, 0x1D16F]), (0x1D162, .mapped [0x1D158, 0x1D165, 0x1D170]), (0x1D163, .mapped [0x1D158, 0x1D165, 0x1D171]),
   (0x1D164, .mapped [0x1D158, 0x1D165, 0x1D172]), (0x1D165, .valid), (0x1D173, .ignored),
   (0x1D17B, .valid), (0x1D1BB, .mapped [0x1D1B9, 0x1D165]), (0x1D1BC, .mapped [0x1D1BA, 0x1D165]),
   (0x1D1BD, .mapped [0x1D1B9, 0x1D165, 0x1D16E]), (0x1D1BE, .mapped [0x1D1BA, 0x1D165, 0x1D16E]), (0x1D1BF, .mapped [0x1D1B9, 0x1D165, 0x1D16F]),
   (0x1D1C0, .mapped [0x1D1BA, 0x1D165, 0x1D16F]), (0x1D1C1, .valid), (0x1D1EB, .disallowed),
   (0x1D200, .valid), (0x1D246, .disallowed), (0x1D2C0, .valid),
   (0x1D2D4, .disallowed), (0x1D2E0, .valid), (0x1D2F4, .disallowed),
   (0x1D300, .valid), (0x1D357, .disallowed), (0x1D360, .valid),
   (0x1D379, .disallowed), (0x1D400, .shifted (-119711)), (0x1D41A, .shifted (-119737)),
   (0x1D434, .shifted (-119763)), (0x1D44E, .shifted (-119789)), (0x1D455, .disallowed),
   (0x1D456, .shifted (-119789)), (0x1D468, .shifted (-119815)), (0x1D482, .shifted (-119841)),
   (0x1D49C, .mapped [0x0061]), (0x1D49D, .disallowed), (0x1D49E, .shifted (-119867)),
   (0x1D4A0, .disallowed), (0x1D4A2, .mapped [0x0067]), (0x1D4A3, .disallowed),
   (0x1D4A5, .shifted (-119867)), (0x1D4A7, .disallowed), (0x1D4A9, .shifted (-119867)),
   (0x1D4AD, .disallowed), (0x1D4AE, .shifted (-119867)), (0x1D4B6, .shifted (-119893)),
   (0x1D4BA, .disallowed), (0x1D4BB, .mapped [0x0066]), (0x1D4BC, .disallowed),
   (0x1D4BD, .shifted (-119893)), (0x1D4C4, .disallowed), (0x1D4C5, .shifted (-119893)),
   (0x1D4D0, .shifted (-119919)), (0x1D4EA, .shifted (-119945)), (0x1D504, .shifted (-119971)),
   (0x1D506, .disallowed), (0x1D507, .shifted (-119971)), (0x1D50B, .disallowed),
   (0x1D50D, .shifted (-119971)), (0x1D515, .disallowed), (0x1D516, .shifted (-119971)),
   (0x1D51D, .disallowed), (0x1D51E, .shifted (-119997)), (0x1D538, .shifted (-120023)),
   (0x1D53A, .disallowed), (0x1D53B, .shifted (-120023)), (0x1D53F, .disallowed),
   (0x1D540, .shifted (-120023)), (0x1D545, .disallowed), (0x1D546, .mapped [0x006F]),
   (0x1D547, .disallowed), (0x1D54A, .shifted (-120023)), (0x1D551, .disallowed),
   (0x1D552, .shifted (-120049)), (0x1D56C, .shifted (-120075)), (0x1D586, .shifted (-120101)),
   (0x1D5A0, .shifted (-120127)), (0x1D5BA, .shifted (-120153)), (0x1D5D4, .shifted (-120179)),
   (0x1D5EE, .shifted (-120205)), (0x1D608, .shifted (-120231)), (0x1D622, .shifted (-120257)),
   (0x1D63C, .shifted (-120283)), (0x1D656, .shifted (-120309)), (0x1D670, .shifted (-120335)),
   (0x1D68A, .shifted (-120361)), (0x1D6A4, .mapped [0x0131]), (0x1D6A5, .mapped [0x0237]),
   (0x1D6A6, .disallowed), (0x1D6A8, .shifted (-119543)), (0x1D6B9, .mapped [0x03B8]),
   (0x1D6BA, .shifted (-119543)), (0x1D6C1, .mapped [0x2207]), (0x1D6C2, .shifted (-119569)),
   (0x1D6D3, .mapped [0x03C3]), (0x1D6D5, .shifted (-119569)), (0x1D6DB, .mapped [0x2202]),
   (0x1D6DC, .mapped [0x03B5]), (0x1D6DD, .mapped [0x03B8]), (0x1D6DE, .mapped [0x03BA]),
   (0x1D6DF, .mapped [0x03C6]), (0x1D6E0, .mapped [0x03C1]), (0x1D6E1, .mapped [0x03C0]),
   (0x1D6E2, .shifted (-119601)), (0x1D6F3, .mapped [0x03B8]), (0x1D6F4, .shifted (-119601)),
   (0x1D6FB, .mapped [0x2207]), (0x1D6FC, .shifted (-119627)), (0x1D70D, .mapped [0x03C3]),
   (0x1D70F, .shifted (-119627)), (0x1D715, .mapped [0x2202]), (0x1D716, .mapped [0x03B5]),
   (0x1D717, .mapped [0x03B8]), (0x1D718, .mapped [0x03BA]), (0x1D719, .mapped [0x03C6]),
   (0x1D71A, .mapped [0x03C1]), (0x1D71B, .mapped [0x03C0]), (0x1D71C, .shifted (-119659)),
   (0x1D72D, .mapped [0x03B8]), (0x1D72E, .shifted (-119659)), (0x1D735, .mapped [0x2207]),
   (0x1D736, .shifted (-119685)), (0x1D747, .mapped [0x03C3]), (0x1D749, .shifted (-119685)),
   (0x1D74F, .mapped [0x2202]), (0x1D750, .mapped [0x03B5]), (0x1D751, .mapped [0x03B8]),
   (0x1D752, .mapped [0x03BA]), (0x1D753, .mapped [0x03C6]), (0x1D754, .mapped [0x03C1]),
   (0x1D755, .mapped [0x03C0]), (0x1D756, .shifted (-119717)), (0x1D767, .mapped [0x03B8]),
   (0x1D768, .shifted (-119717)), (0x1D76F, .mapped [0x2207]), (0x1D770, .shifted (-119743)),
   (0x1D781, .mapped [0x03C3]), (0x1D783, .shifted (-119743)), (0x1D789, .mapped [0x2202]),
   (0x1D78A, .mapped [0x03B5]), (0x1D78B, .mapped [0x03B8]), (0x1D78C, .mapped [0x03BA]),
   (0x1D78D, .mapped [0x03C6]), (0x1D78E, .mapped [0x03C1]), (0x1D78F, .mapped [0x03C0]),
   (0x1D790, .shifted (-119775)), (0x1D7A1, .mapped [0x03B8]), (0x1D7A2, .shifted (-119775)),
   (0x1D7A9, .mapped [0x2207]), (0x1D7AA, .shifted (-119801)), (0x1D7BB, .mapped [0x03C3]),
   (0x1D7BD, .shifted (-119801)), (0x1D7C3, .mapped [0x2202]), (0x1D7C4, .mapped [0x03B5]),
   (0x1D7C5, .mapped [0x03B8]), (0x1D7C6, .mapped [0x03BA]), (0x1D7C7, .mapped [0x03C6]),
   (0x1D7C8, .mapped [0x03C1]), (0x1D7C9, .mapped [0x03C0]), (0x1D7CA, .mapped [0x03DD]),
   (0x1D7CC, .disallowed), (0x1D7CE, .shifted (-120734)), (0x1D7D8, .shifted (-120744)),
   (0x1D7E2, .shifted (-120754)), (0x1D7EC, .shifted (-120764)), (0x1D7F6, .shifted (-120774)),
   (0x1D800, .valid), (0x1DA8C, .disallowed), (0x1DA9B, .valid),
   (0x1DAA0, .disallowed), (0x1DAA1, .valid), (0x1DAB0, .disallowed),
   (0x1DF00, .valid), (0x1DF1F, .disallowed), (0x1DF25, .valid),
   (0x1DF2B, .disallowed), (0x1E000, .valid), (0x1E007, .disallowed),
   (0x1E008, .valid), (0x1E019, .disallowed), (0x1E01B, .valid),
   (0x1E022, .disallowed), (0x1E023, .valid), (0x1E025, .disallowed),
   (0x1E026, .valid), (0x1E02B, .disallowed), (0x1E030, .shifted (-121856)),
   (0x1E039, .shifted (-121855)), (0x1E03C, .shifted (-121854)), (0x1E047, .mapped [0x044B]),
   (0x1E048, .shifted (-121851)), (0x1E04A, .mapped [0xA689]), (0x1E04B, .mapped [0x04D9]),
   (0x1E04C, .mapped [0x0456]), (0x1E04D, .mapped [0x0458]), (0x1E04E, .mapped [0x04E9]),
   (0x1E04F, .mapped [0x04AF]), (0x1E050, .mapped [0x04CF]), (0x1E051, .shifted (-121889)),
   (0x1E05A, .shifted (-121888)), (0x1E05C, .shifted (-121886)), (0x1E05E, .mapped [0x0441]),
   (0x1E05F, .shifted (-121884)), (0x1E065, .shifted (-121883)), (0x1E067, .mapped [0x0491]),
   (0x1E068, .mapped [0x0456]), (0x1E069, .mapped [0x0455]), (0x1E06A, .mapped [0x045F]),
   (0x1E06B, .mapped [0x04AB]), (0x1E06C, .mapped [0xA651]), (0x1E06D, .mapped [0x04B1]),
   (0x1E06E, .disallowed), (0x1E08F, .valid), (0x1E090, .disallowed)]

/-- Entries 4200 onwards of `idnaStarts`. -/
def idnaStartsPart7 : List (Nat × IdnaStatus) :=
  [(0x1E100, .valid), (0x1E12D, .disallowed), (0x1E130, .valid),
   (0x1E13E, .disallowed), (0x1E140, .valid), (0x1E14A, .disallowed),
   (0x1E14E, .valid), (0x1E150, .disallowed), (0x1E290, .valid),
   (0x1E2AF, .disallowed), (0x1E2C0, .valid), (0x1E2FA, .disallowed),
   (0x1E2FF, .valid), (0x1E300, .disallowed), (0x1E4D0, .valid),
   (0x1E4FA, .disallowed), (0x1E5D0, .valid), (0x1E5FB, .disallowed),
   (0x1E5FF, .valid), (0x1E600, .disallowed), (0x1E6C0, .valid),
   (0x1E6DF, .disallowed), (0x1E6E0, .valid), (0x1E6F6, .disallowed),
   (0x1E6FE, .valid), (0x1E700, .disallowed), (0x1E7E0, .valid),
   (0x1E7E7, .disallowed), (0x1E7E8, .valid), (0x1E7EC, .disallowed),
   (0x1E7ED, .valid), (0x1E7EF, .disallowed), (0x1E7F0, .valid),
   (0x1E7FF, .disallowed), (0x1E800, .valid), (0x1E8C5, .disallowed),
   (0x1E8C7, .valid), (0x1E8D7, .disallowed), (0x1E900, .shifted (34)),
   (0x1E922, .valid), (0x1E94C, .disallowed), (0x1E950, .valid),
   (0x1E95A, .disallowed), (0x1E95E, .valid), (0x1E960, .disallowed),
   (0x1EC71, .valid), (0x1ECB5, .disallowed), (0x1ED01, .valid),
   (0x1ED3E, .disallowed), (0x1EE00, .shifted (-124889)), (0x1EE02, .mapped [0x062C]),
   (0x1EE03, .mapped [0x062F]), (0x1EE04, .disallowed), (0x1EE05, .mapped [0x0648]),
   (0x1EE06, .mapped [0x0632]), (0x1EE07, .mapped [0x062D]), (0x1EE08, .mapped [0x0637]),
   (0x1EE09, .mapped [0x064A]), (0x1EE0A, .shifted (-124871)), (0x1EE0E, .mapped [0x0633]),
   (0x1EE0F, .mapped [0x0639]), (0x1EE10, .mapped [0x0641]), (0x1EE11, .mapped [0x0635]),
   (0x1EE12, .mapped [0x0642]), (0x1EE13, .mapped [0x0631]), (0x1EE14, .mapped [0x0634]),
   (0x1EE15, .shifted (-124907)), (0x1EE17, .mapped [0x062E]), (0x1EE18, .mapped [0x0630]),
   (0x1EE19, .mapped [0x0636]), (0x1EE1A, .mapped [0x0638]), (0x1EE1B, .mapped [0x063A]),
   (0x1EE1C, .mapped [0x066E]), (0x1EE1D, .mapped [0x06BA]), (0x1EE1E, .mapped [0x06A1]),
   (0x1EE1F, .mapped [0x066F]), (0x1EE20, .disallowed), (0x1EE21, .mapped [0x0628]),
   (0x1EE22, .mapped [0x062C]), (0x1EE23, .disallowed), (0x1EE24, .mapped [0x0647]),
   (0x1EE25, .disallowed), (0x1EE27, .mapped [0x062D]), (0x1EE28, .disallowed),
   (0x1EE29, .mapped [0x064A]), (0x1EE2A, .shifted (-124903)), (0x1EE2E, .mapped [0x0633]),
   (0x1EE2F, .mapped [0x0639]), (0x1EE30, .mapped [0x0641]), (0x1EE31, .mapped [0x0635]),
   (0x1EE32, .mapped [0x0642]), (0x1EE33, .disallowed), (0x1EE34, .mapped [0x0634]),
   (0x1EE35, .shifted (-124939)), (0x1EE37, .mapped [0x062E]), (0x1EE38, .disallowed),
   (0x1EE39, .mapped [0x0636]), (0x1EE3A, .disallowed), (0x1EE3B, .mapped [0x063A]),
   (0x1EE3C, .disallowed), (0x1EE42, .mapped [0x062C]), (0x1EE43, .disallowed),
   (0x1EE47, .mapped [0x062D]), (0x1EE48, .disallowed), (0x1EE49, .mapped [0x064A]),
   (0x1EE4A, .disallowed), (0x1EE4B, .mapped [0x0644]), (0x1EE4C, .disallowed),
   (0x1EE4D, .mapped [0x0646]), (0x1EE4E, .mapped [0x0633]), (0x1EE4F, .mapped [0x0639]),
   (0x1EE50, .disallowed), (0x1EE51, .mapped [0x0635]), (0x1EE52, .mapped [0x0642]),
   (0x1EE53, .disallowed), (0x1EE54, .mapped [0x0634]), (0x1EE55, .disallowed),
   (0x1EE57, .mapped [0x062E]), (0x1EE58, .disallowed), (0x1EE59, .mapped [0x0636]),
   (0x1EE5A, .disallowed), (0x1EE5B, .mapped [0x063A]), (0x1EE5C, .disallowed),
   (0x1EE5D, .mapped [0x06BA]), (0x1EE5E, .disallowed), (0x1EE5F, .mapped [0x066F]),
   (0x1EE60, .disallowed), (0x1EE61, .mapped [0x0628]), (0x1EE62, .mapped [0x062C]),
   (0x1EE63, .disallowed), (0x1EE64, .mapped [0x0647]), (0x1EE65, .disallowed),
   (0x1EE67, .mapped [0x062D]), (0x1EE68, .mapped [0x0637]), (0x1EE69, .mapped [0x064A]),
   (0x1EE6A, .mapped [0x0643]), (0x1EE6B, .disallowed), (0x1EE6C, .shifted (-124967)),
   (0x1EE6E, .mapped [0x0633]), (0x1EE6F, .mapped [0x0639]), (0x1EE70, .mapped [0x0641]),
   (0x1EE71, .mapped [0x0635]), (0x1EE72, .mapped [0x0642]), (0x1EE73, .disallowed),
   (0x1EE74, .mapped [0x0634]), (0x1EE75, .shifted (-125003)), (0x1EE77, .mapped [0x062E]),
   (0x1EE78, .disallowed), (0x1EE79, .mapped [0x0636]), (0x1EE7A, .mapped [0x0638]),
   (0x1EE7B, .mapped [0x063A]), (0x1EE7C, .mapped [0x066E]), (0x1EE7D, .disallowed),
   (0x1EE7E, .mapped [0x06A1]), (0x1EE7F, .disallowed), (0x1EE80, .shifted (-125017)),
   (0x1EE82, .mapped [0x062C]), (0x1EE83, .mapped [0x062F]), (0x1EE84, .shifted (-124989)),
   (0x1EE86, .mapped [0x0632]), (0x1EE87, .mapped [0x062D]), (0x1EE88, .mapped [0x0637]),
   (0x1EE89, .mapped [0x064A]), (0x1EE8A, .disallowed), (0x1EE8B, .shifted (-124999)),
   (0x1EE8E, .mapped [0x0633]), (0x1EE8F, .mapped [0x0639]), (0x1EE90, .mapped [0x0641]),
   (0x1EE91, .mapped [0x0635]), (0x1EE92, .mapped [0x0642]), (0x1EE93, .mapped [0x0631]),
   (0x1EE94, .mapped [0x0634]), (0x1EE95, .shifted (-125035)), (0x1EE97, .mapped [0x062E]),
   (0x1EE98, .mapped [0x0630]), (0x1EE99, .mapped [0x0636]), (0x1EE9A, .mapped [0x0638]),
   (0x1EE9B, .mapped [0x063A]), (0x1EE9C, .disallowed), (0x1EEA1, .mapped [0x0628]),
   (0x1EEA2, .mapped [0x062C]), (0x1EEA3, .mapped [0x062F]), (0x1EEA4, .disallowed),
   (0x1EEA5, .mapped [0x0648]), (0x1EEA6, .mapped [0x0632]), (0x1EEA7, .mapped [0x062D]),
   (0x1EEA8, .mapped [0x0637]), (0x1EEA9, .mapped [0x064A]), (0x1EEAA, .disallowed),
   (0x1EEAB, .shifted (-125031)), (0x1EEAE, .mapped [0x0633]), (0x1EEAF, .mapped [0x0639]),
   (0x1EEB0, .mapped [0x0641]), (0x1EEB1, .mapped [0x0635]), (0x1EEB2, .mapped [0x0642]),
   (0x1EEB3, .mapped [0x0631]), (0x1EEB4, .mapped [0x0634]), (0x1EEB5, .shifted (-125067)),
   (0x1EEB7, .mapped [0x062E]), (0x1EEB8, .mapped [0x0630]), (0x1EEB9, .mapped [0x0636]),
   (0x1EEBA, .mapped [0x0638]), (0x1EEBB, .mapped [0x063A]), (0x1EEBC, .disallowed),
   (0x1EEF0, .valid), (0x1EEF2, .disallowed), (0x1F000, .valid),
   (0x1F02C, .disallowed), (0x1F030, .valid), (0x1F094, .disallowed),
   (0x1F0A0, .valid), (0x1F0AF, .disallowed), (0x1F0B1, .valid),
   (0x1F0C0, .disallowed), (0x1F0C1, .valid), (0x1F0D0, .disallowed),
   (0x1F0D1, .valid), (0x1F0F6, .disallowed), (0x1F101, .mapped [0x0030, 0x002C]),
   (0x1F102, .mapped [0x0031, 0x002C]), (0x1F103, .mapped [0x0032, 0x002C]), (0x1F104, .mapped [0x0033, 0x002C]),
   (0x1F105, .mapped [0x0034, 0x002C]), (0x1F106, .mapped [0x0035, 0x002C]), (0x1F107, .mapped [0x0036, 0x002C]),
   (0x1F108, .mapped [0x0037, 0x002C]), (0x1F109, .mapped [0x0038, 0x002C]), (0x1F10A, .mapped [0x0039, 0x002C]),
   (0x1F10B, .valid), (0x1F110, .mapped [0x0028, 0x0061, 0x0029]), (0x1F111, .mapped [0x0028, 0x0062, 0x0029]),
   (0x1F112, .mapped [0x0028, 0x0063, 0x0029]), (0x1F113, .mapped [0x0028, 0x0064, 0x0029]), (0x1F114, .mapped [0x0028, 0x0065, 0x0029]),
   (0x1F115, .mapped [0x0028, 0x0066, 0x0029]), (0x1F116, .mapped [0x0028, 0x0067, 0x0029]), (0x1F117, .mapped [0x0028, 0x0068, 0x0029]),
   (0x1F118, .mapped [0x0028, 0x0069, 0x0029]), (0x1F119, .mapped [0x0028, 0x006A, 0x0029]), (0x1F11A, .mapped [0x0028, 0x006B, 0x0029]),
   (0x1F11B, .mapped [0x0028, 0x006C, 0x0029]), (0x1F11C, .mapped [0x0028, 0x006D, 0x0029]), (0x1F11D, .mapped [0x0028, 0x006E, 0x0029]),
   (0x1F11E, .mapped [0x0028, 0x006F, 0x0029]), (0x1F11F, .mapped [0x0028, 0x0070, 0x0029]), (0x1F120, .mapped [0x0028, 0x0071, 0x0029]),
   (0x1F121, .mapped [0x0028, 0x0072, 0x0029]), (0x1F122, .mapped [0x0028, 0x0073, 0x0029]), (0x1F123, .mapped [0x0028, 0x0074, 0x0029]),
   (0x1F124, .mapped [0x0028, 0x0075, 0x0029]), (0x1F125, .mapped [0x0028, 0x0076, 0x0029]), (0x1F126, .mapped [0x0028, 0x0077, 0x0029]),
   (0x1F127, .mapped [0x0028, 0x0078, 0x0029]), (0x1F128, .mapped [0x0028, 0x0079, 0x0029]), (0x1F129, .mapped [0x0028, 0x007A, 0x0029]),
   (0x1F12A, .mapped [0x3014, 0x0073, 0x3015]), (0x1F12B, .mapped [0x0063]), (0x1F12C, .mapped [0x0072]),
   (0x1F12D, .mapped [0x0063, 0x0064]), (0x1F12E, .mapped [0x0077, 0x007A]), (0x1F12F, .valid),
   (0x1F130, .shifted (-127183)), (0x1F14A, .mapped [0x0068, 0x0076]), (0x1F14B, .mapped [0x006D, 0x0076]),
   (0x1F14C, .mapped [0x0073, 0x0064]), (0x1F14D, .mapped [0x0073, 0x0073]), (0x1F14E, .mapped [0x0070, 0x0070, 0x0076]),
   (0x1F14F, .mapped [0x0077, 0x0063]), (0x1F150, .valid), (0x1F16A, .mapped [0x006D, 0x0063]),
   (0x1F16B, .mapped [0x006D, 0x0064]), (0x1F16C, .mapped [0x006D, 0x0072]), (0x1F16D, .valid),
   (0x1F190, .mapped [0x0064, 0x006A]), (0x1F191, .valid), (0x1F1AE, .disallowed),
   (0x1F1E6, .valid), (0x1F200, .mapped [0x307B, 0x304B]), (0x1F201, .mapped [0x30B3, 0x30B3]),
   (0x1F202, .mapped [0x30B5]), (0x1F203, .disallowed), (0x1F210, .mapped [0x624B]),
   (0x1F211, .mapped [0x5B57]), (0x1F212, .mapped [0x53CC]), (0x1F213, .mapped [0x30C7]),
   (0x1F214, .mapped [0x4E8C]), (0x1F215, .mapped [0x591A]), (0x1F216, .mapped [0x89E3]),
   (0x1F217, .mapped [0x5929]), (0x1F218, .mapped [0x4EA4]), (0x1F219, .mapped [0x6620]),
   (0x1F21A, .mapped [0x7121]), (0x1F21B, .mapped [0x6599]), (0x1F21C, .mapped [0x524D]),
   (0x1F21D, .mapped [0x5F8C]), (0x1F21E, .mapped [0x518D]), (0x1F21F, .mapped [0x65B0]),
   (0x1F220, .mapped [0x521D]), (0x1F221, .mapped [0x7D42]), (0x1F222, .mapped [0x751F]),
   (0x1F223, .mapped [0x8CA9]), (0x1F224, .mapped [0x58F0]), (0x1F225, .mapped [0x5439]),
   (0x1F226, .mapped [0x6F14]), (0x1F227, .mapped [0x6295]), (0x1F228, .mapped [0x6355]),
   (0x1F229, .mapped [0x4E00]), (0x1F22A, .mapped [0x4E09]), (0x1F22B, .mapped [0x904A]),
   (0x1F22C, .mapped [0x5DE6]), (0x1F22D, .mapped [0x4E2D]), (0x1F22E, .mapped [0x53F3]),
   (0x1F22F, .mapped [0x6307]), (0x1F230, .mapped [0x8D70]), (0x1F231, .mapped [0x6253]),
   (0x1F232, .mapped [0x7981]), (0x1F233, .mapped [0x7A7A]), (0x1F234, .mapped [0x5408]),
   (0x1F235, .mapped [0x6E80]), (0x1F236, .mapped [0x6709]), (0x1F237, .mapped [0x6708]),
   (0x1F238, .mapped [0x7533]), (0x1F239, .mapped [0x5272]), (0x1F23A, .mapped [0x55B6]),
   (0x1F23B, .mapped [0x914D]), (0x1F23C, .disallowed), (0x1F240, .mapped [0x3014, 0x672C, 0x3015]),
   (0x1F241, .mapped [0x3014, 0x4E09, 0x3015]), (0x1F242, .mapped [0x3014, 0x4E8C, 0x3015]), (0x1F243, .mapped [0x3014, 0x5B89, 0x3015]),
   (0x1F244, .mapped [0x3014, 0x70B9, 0x3015]), (0x1F245, .mapped [0x3014, 0x6253, 0x3015]), (0x1F246, .mapped [0x3014, 0x76D7, 0x3015]),
   (0x1F247, .mapped [0x3014, 0x52DD, 0x3015]), (0x1F248, .mapped [0x3014, 0x6557, 0x3015]), (0x1F249, .disallowed),
   (0x1F250, .mapped [0x5F97]), (0x1F251, .mapped [0x53EF]), (0x1F252, .disallowed),
   (0x1F260, .valid), (0x1F266, .disallowed), (0x1F300, .valid),
   (0x1F6D9, .disallowed), (0x1F6DC, .valid), (0x1F6ED, .disallowed),
   (0x1F6F0, .valid), (0x1F6FD, .disallowed), (0x1F700, .valid),
   (0x1F7DA, .disallowed), (0x1F7E0, .valid), (0x1F7EC, .disallowed),
   (0x1F7F0, .valid), (0x1F7F1, .disallowed), (0x1F800, .valid),
   (0x1F80C, .disallowed), (0x1F810, .valid), (0x1F848, .disallowed),
   (0x1F850, .valid), (0x1F85A, .disallowed), (0x1F860, .valid),
   (0x1F888, .disallowed), (0x1F890, .valid), (0x1F8AE, .disallowed),
   (0x1F8B0, .valid), (0x1F8BC, .disallowed), (0x1F8C0, .valid),
   (0x1F8C2, .disallowed), (0x1F8D0, .valid), (0x1F8D9, .disallowed),
   (0x1F900, .valid), (0x1FA58, .disallowed), (0x1FA60, .valid),
   (0x1FA6E, .disallowed), (0x1FA70, .valid), (0x1FA7D, .disallowed),
   (0x1FA80, .valid), (0x1FA8B, .disallowed), (0x1FA8E, .valid),
   (0x1FAC7, .disallowed), (0x1FAC8, .valid), (0x1FAC9, .disallowed),
   (0x1FACD, .valid), (0x1FADD, .disallowed), (0x1FADF, .valid),
   (0x1FAEB, .disallowed), (0x1FAEF, .valid), (0x1FAF9, .disallowed),
   (0x1FB00, .valid), (0x1FB93, .disallowed), (0x1FB94, .valid),
   (0x1FBF0, .shifted (-129984)), (0x1FBFA, .valid), (0x1FBFB, .disallowed),
   (0x20000, .valid), (0x2A6E0, .disallowed), (0x2A700, .valid),
   (0x2B81E, .disallowed), (0x2B820, .valid), (0x2CEAE, .disallowed),
   (0x2CEB0, .valid), (0x2EBE1, .disallowed), (0x2EBF0, .valid),
   (0x2EE5E, .disallowed), (0x2F800, .mapped [0x4E3D]), (0x2F801, .mapped [0x4E38]),
   (0x2F802, .mapped [0x4E41]), (0x2F803, .mapped [0x20122]), (0x2F804, .mapped [0x4F60]),
   (0x2F805, .mapped [0x4FAE]), (0x2F806, .mapped [0x4FBB]), (0x2F807, .mapped [0x5002]),
   (0x2F808, .mapped [0x507A]), (0x2F809, .mapped [0x5099]), (0x2F80A, .mapped [0x50E7]),
   (0x2F80B, .mapped [0x50CF]), (0x2F80C, .mapped [0x349E]), (0x2F80D, .mapped [0x2063A]),
   (0x2F80E, .mapped [0x514D]), (0x2F80F, .mapped [0x5154]), (0x2F810, .mapped [0x5164]),
   (0x2F811, .mapped [0x5177]), (0x2F812, .mapped [0x2051C]), (0x2F813, .mapped [0x34B9]),
   (0x2F814, .mapped [0x5167]), (0x2F815, .mapped [0x518D]), (0x2F816, .mapped [0x2054B]),
   (0x2F817, .mapped [0x5197]), (0x2F818, .mapped [0x51A4]), (0x2F819, .mapped [0x4ECC]),
   (0x2F81A, .mapped [0x51AC]), (0x2F81B, .mapped [0x51B5]), (0x2F81C, .mapped [0x291DF]),
   (0x2F81D, .mapped [0x51F5]), (0x2F81E, .mapped [0x5203]), (0x2F81F, .mapped [0x34DF]),
   (0x2F820, .mapped [0x523B]), (0x2F821, .mapped [0x5246]), (0x2F822, .mapped [0x5272]),
   (0x2F823, .mapped [0x5277]), (0x2F824, .mapped [0x3515]), (0x2F825, .mapped [0x52C7]),
   (0x2F826, .mapped [0x52C9]), (0x2F827, .mapped [0x52E4]), (0x2F828, .mapped [0x52FA]),
   (0x2F829, .shifted (-173348)), (0x2F82B, .mapped [0x5317]), (0x2F82C, .mapped [0x5349]),
   (0x2F82D, .mapped [0x5351]), (0x2F82E, .mapped [0x535A]), (0x2F82F, .mapped [0x5373]),
   (0x2F830, .mapped [0x537D]), (0x2F831, .mapped [0x537F]), (0x2F834, .mapped [0x20A2C]),
   (0x2F835, .mapped [0x7070]), (0x2F836, .mapped [0x53CA]), (0x2F837, .mapped [0x53DF]),
   (0x2F838, .mapped [0x20B63]), (0x2F839, .mapped [0x53EB]), (0x2F83A, .mapped [0x53F1]),
   (0x2F83B, .mapped [0x5406]), (0x2F83C, .mapped [0x549E]), (0x2F83D, .mapped [0x5438]),
   (0x2F83E, .mapped [0x5448]), (0x2F83F, .mapped [0x5468]), (0x2F840, .mapped [0x54A2]),
   (0x2F841, .mapped [0x54F6]), (0x2F842, .mapped [0x5510]), (0x2F843, .mapped [0x5553]),
   (0x2F844, .mapped [0x5563]), (0x2F845, .mapped [0x5584]), (0x2F847, .mapped [0x5599]),
   (0x2F848, .mapped [0x55AB]), (0x2F849, .mapped [0x55B3]), (0x2F84A, .mapped [0x55C2]),
   (0x2F84B, .mapped [0x5716]), (0x2F84C, .mapped [0x5606]), (0x2F84D, .mapped [0x5717]),
   (0x2F84E, .mapped [0x5651]), (0x2F84F, .mapped [0x5674]), (0x2F850, .mapped [0x5207]),
   (0x2F851, .mapped [0x58EE]), (0x2F852, .mapped [0x57CE]), (0x2F853, .mapped [0x57F4]),
   (0x2F854, .mapped [0x580D]), (0x2F855, .mapped [0x578B]), (0x2F856, .mapped [0x5832]),
   (0x2F857, .mapped [0x5831]), (0x2F858, .mapped [0x58AC]), (0x2F859, .mapped [0x214E4]),
   (0x2F85A, .mapped [0x58F2]), (0x2F85B, .mapped [0x58F7]), (0x2F85C, .mapped [0x5906]),
   (0x2F85D, .mapped [0x591A]), (0x2F85E, .mapped [0x5922]), (0x2F85F, .mapped [0x5962]),
   (0x2F860, .mapped [0x216A8]), (0x2F861, .mapped [0x216EA]), (0x2F862, .mapped [0x59EC]),
   (0x2F863, .mapped [0x5A1B]), (0x2F864, .mapped [0x5A27]), (0x2F865, .mapped [0x59D8]),
   (0x2F866, .mapped [0x5A66]), (0x2F867, .mapped [0x36EE]), (0x2F868, .mapped [0x36FC]),
   (0x2F869, .mapped [0x5B08]), (0x2F86A, .mapped [0x5B3E]), (0x2F86C, .mapped [0x219C8]),
   (0x2F86D, .mapped [0x5BC3]), (0x2F86E, .mapped [0x5BD8]), (0x2F86F, .mapped [0x5BE7]),
   (0x2F870, .mapped [0x5BF3]), (0x2F871, .mapped [0x21B18]), (0x2F872, .mapped [0x5BFF]),
   (0x2F873, .mapped [0x5C06]), (0x2F874, .mapped [0x5F53]), (0x2F875, .mapped [0x5C22]),
   (0x2F876, .mapped [0x3781]), (0x2F877, .mapped [0x5C60]), (0x2F878, .mapped [0x5C6E]),
   (0x2F879, .mapped [0x5CC0]), (0x2F87A, .mapped [0x5C8D]), (0x2F87B, .mapped [0x21DE4]),
   (0x2F87C, .mapped [0x5D43]), (0x2F87D, .mapped [0x21DE6]), (0x2F87E, .mapped [0x5D6E]),
   (0x2F87F, .mapped [0x5D6B]), (0x2F880, .mapped [0x5D7C]), (0x2F881, .shifted (-170656)),
   (0x2F883, .mapped [0x382F]), (0x2F884, .mapped [0x5DFD]), (0x2F885, .mapped [0x5E28]),
   (0x2F886, .mapped [0x5E3D]), (0x2F887, .mapped [0x5E69]), (0x2F888, .mapped [0x3862]),
   (0x2F889, .mapped [0x22183]), (0x2F88A, .mapped [0x387C]), (0x2F88B, .mapped [0x5EB0]),
   (0x2F88C, .mapped [0x5EB3]), (0x2F88D, .mapped [0x5EB6]), (0x2F88E, .mapped [0x5ECA]),
   (0x2F88F, .mapped [0x2A392]), (0x2F890, .mapped [0x5EFE]), (0x2F891, .mapped [0x22331]),
   (0x2F893, .mapped [0x8201]), (0x2F894, .mapped [0x5F22]), (0x2F896, .mapped [0x38C7]),
   (0x2F897, .mapped [0x232B8]), (0x2F898, .mapped [0x261DA]), (0x2F899, .mapped [0x5F62]),
   (0x2F89A, .mapped [0x5F6B]), (0x2F89B, .mapped [0x38E3]), (0x2F89C, .mapped [0x5F9A]),
   (0x2F89D, .mapped [0x5FCD]), (0x2F89E, .mapped [0x5FD7]), (0x2F89F, .mapped [0x5FF9]),
   (0x2F8A0, .mapped [0x6081]), (0x2F8A1, .mapped [0x393A]), (0x2F8A2, .mapped [0x391C]),
   (0x2F8A3, .mapped [0x6094]), (0x2F8A4, .mapped [0x226D4]), (0x2F8A5, .mapped [0x60C7]),
   (0x2F8A6, .mapped [0x6148]), (0x2F8A7, .mapped [0x614C]), (0x2F8A8, .mapped [0x614E]),
   (0x2F8A9, .mapped [0x614C]), (0x2F8AA, .mapped [0x617A]), (0x2F8AB, .mapped [0x618E]),
   (0x2F8AC, .mapped [0x61B2]), (0x2F8AD, .mapped [0x61A4]), (0x2F8AE, .mapped [0x61AF]),
   (0x2F8AF, .mapped [0x61DE]), (0x2F8B0, .mapped [0x61F2]), (0x2F8B1, .mapped [0x61F6]),
   (0x2F8B2, .mapped [0x6210]), (0x2F8B3, .mapped [0x621B]), (0x2F8B4, .mapped [0x625D]),
   (0x2F8B5, .mapped [0x62B1]), (0x2F8B6, .mapped [0x62D4]), (0x2F8B7, .mapped [0x6350]),
   (0x2F8B8, .mapped [0x22B0C]), (0x2F8B9, .mapped [0x633D]), (0x2F8BA, .mapped [0x62FC]),
   (0x2F8BB, .mapped [0x6368]), (0x2F8BC, .mapped [0x6383]), (0x2F8BD, .mapped [0x63E4]),
   (0x2F8BE, .mapped [0x22BF1]), (0x2F8BF, .mapped [0x6422]), (0x2F8C0, .mapped [0x63C5]),
   (0x2F8C1, .mapped [0x63A9]), (0x2F8C2, .mapped [0x3A2E]), (0x2F8C3, .mapped [0x6469]),
   (0x2F8C4, .mapped [0x647E]), (0x2F8C5, .mapped [0x649D]), (0x2F8C6, .mapped [0x6477]),
   (0x2F8C7, .mapped [0x3A6C]), (0x2F8C8, .mapped [0x654F]), (0x2F8C9, .mapped [0x656C]),
   (0x2F8CA, .mapped [0x2300A]), (0x2F8CB, .mapped [0x65E3]), (0x2F8CC, .mapped [0x66F8])]

/-- Entries 4800 onwards of `idnaStarts`. -/
def idnaStartsPart8 : List (Nat × IdnaStatus) :=
  [(0x2F8CD, .mapped [0x6649]), (0x2F8CE, .mapped [0x3B19]), (0x2F8CF, .mapped [0x6691]),
   (0x2F8D0, .mapped [0x3B08]), (0x2F8D1, .mapped [0x3AE4]), (0x2F8D2, .mapped [0x5192]),
   (0x2F8D3, .mapped [0x5195]), (0x2F8D4, .mapped [0x6700]), (0x2F8D5, .mapped [0x669C]),
   (0x2F8D6, .mapped [0x80AD]), (0x2F8D7, .mapped [0x43D9]), (0x2F8D8, .mapped [0x6717]),
   (0x2F8D9, .mapped [0x671B]), (0x2F8DA, .mapped [0x6721]), (0x2F8DB, .mapped [0x675E]),
   (0x2F8DC, .mapped [0x6753]), (0x2F8DD, .mapped [0x233C3]), (0x2F8DE, .mapped [0x3B49]),
   (0x2F8DF, .mapped [0x67FA]), (0x2F8E0, .mapped [0x6785]), (0x2F8E1, .mapped [0x6852]),
   (0x2F8E2, .mapped [0x6885]), (0x2F8E3, .mapped [0x2346D]), (0x2F8E4, .mapped [0x688E]),
   (0x2F8E5, .mapped [0x681F]), (0x2F8E6, .mapped [0x6914]), (0x2F8E7, .mapped [0x3B9D]),
   (0x2F8E8, .mapped [0x6942]), (0x2F8E9, .mapped [0x69A3]), (0x2F8EA, .mapped [0x69EA]),
   (0x2F8EB, .mapped [0x6AA8]), (0x2F8EC, .mapped [0x236A3]), (0x2F8ED, .mapped [0x6ADB]),
   (0x2F8EE, .mapped [0x3C18]), (0x2F8EF, .mapped [0x6B21]), (0x2F8F0, .mapped [0x238A7]),
   (0x2F8F1, .mapped [0x6B54]), (0x2F8F2, .mapped [0x3C4E]), (0x2F8F3, .mapped [0x6B72]),
   (0x2F8F4, .mapped [0x6B9F]), (0x2F8F5, .shifted (-167227)), (0x2F8F7, .mapped [0x23A8D]),
   (0x2F8F8, .mapped [0x21D0B]), (0x2F8F9, .mapped [0x23AFA]), (0x2F8FA, .mapped [0x6C4E]),
   (0x2F8FB, .mapped [0x23CBC]), (0x2F8FC, .mapped [0x6CBF]), (0x2F8FD, .mapped [0x6CCD]),
   (0x2F8FE, .mapped [0x6C67]), (0x2F8FF, .mapped [0x6D16]), (0x2F900, .mapped [0x6D3E]),
   (0x2F901, .mapped [0x6D77]), (0x2F902, .mapped [0x6D41]), (0x2F903, .mapped [0x6D69]),
   (0x2F904, .mapped [0x6D78]), (0x2F905, .mapped [0x6D85]), (0x2F906, .mapped [0x23D1E]),
   (0x2F907, .mapped [0x6D34]), (0x2F908, .mapped [0x6E2F]), (0x2F909, .mapped [0x6E6E]),
   (0x2F90A, .mapped [0x3D33]), (0x2F90B, .mapped [0x6ECB]), (0x2F90C, .mapped [0x6EC7]),
   (0x2F90D, .mapped [0x23ED1]), (0x2F90E, .mapped [0x6DF9]), (0x2F90F, .mapped [0x6F6E]),
   (0x2F910, .mapped [0x23F5E]), (0x2F911, .mapped [0x23F8E]), (0x2F912, .mapped [0x6FC6]),
   (0x2F913, .mapped [0x7039]), (0x2F914, .mapped [0x701E]), (0x2F915, .mapped [0x701B]),
   (0x2F916, .mapped [0x3D96]), (0x2F917, .mapped [0x704A]), (0x2F918, .mapped [0x707D]),
   (0x2F919, .mapped [0x7077]), (0x2F91A, .mapped [0x70AD]), (0x2F91B, .mapped [0x20525]),
   (0x2F91C, .mapped [0x7145]), (0x2F91D, .mapped [0x24263]), (0x2F91E, .mapped [0x719C]),
   (0x2F91F, .mapped [0x243AB]), (0x2F920, .mapped [0x7228]), (0x2F921, .mapped [0x7235]),
   (0x2F922, .mapped [0x7250]), (0x2F923, .mapped [0x24608]), (0x2F924, .mapped [0x7280]),
   (0x2F925, .mapped [0x7295]), (0x2F926, .mapped [0x24735]), (0x2F927, .mapped [0x24814]),
   (0x2F928, .mapped [0x737A]), (0x2F929, .mapped [0x738B]), (0x2F92A, .mapped [0x3EAC]),
   (0x2F92B, .mapped [0x73A5]), (0x2F92C, .mapped [0x3EB8]), (0x2F92E, .mapped [0x7447]),
   (0x2F92F, .mapped [0x745C]), (0x2F930, .mapped [0x7471]), (0x2F931, .mapped [0x7485]),
   (0x2F932, .mapped [0x74CA]), (0x2F933, .mapped [0x3F1B]), (0x2F934, .mapped [0x7524]),
   (0x2F935, .mapped [0x24C36]), (0x2F936, .mapped [0x753E]), (0x2F937, .mapped [0x24C92]),
   (0x2F938, .mapped [0x7570]), (0x2F939, .mapped [0x2219F]), (0x2F93A, .mapped [0x7610]),
   (0x2F93B, .mapped [0x24FA1]), (0x2F93C, .mapped [0x24FB8]), (0x2F93D, .mapped [0x25044]),
   (0x2F93E, .mapped [0x3FFC]), (0x2F93F, .mapped [0x4008]), (0x2F940, .mapped [0x76F4]),
   (0x2F941, .mapped [0x250F3]), (0x2F942, .mapped [0x250F2]), (0x2F943, .mapped [0x25119]),
   (0x2F944, .mapped [0x25133]), (0x2F945, .mapped [0x771E]), (0x2F946, .mapped [0x771F]),
   (0x2F948, .mapped [0x774A]), (0x2F949, .mapped [0x4039]), (0x2F94A, .mapped [0x778B]),
   (0x2F94B, .mapped [0x4046]), (0x2F94C, .mapped [0x4096]), (0x2F94D, .mapped [0x2541D]),
   (0x2F94E, .mapped [0x784E]), (0x2F94F, .mapped [0x788C]), (0x2F950, .mapped [0x78CC]),
   (0x2F951, .mapped [0x40E3]), (0x2F952, .mapped [0x25626]), (0x2F953, .mapped [0x7956]),
   (0x2F954, .mapped [0x2569A]), (0x2F955, .mapped [0x256C5]), (0x2F956, .mapped [0x798F]),
   (0x2F957, .mapped [0x79EB]), (0x2F958, .mapped [0x412F]), (0x2F959, .mapped [0x7A40]),
   (0x2F95A, .mapped [0x7A4A]), (0x2F95B, .mapped [0x7A4F]), (0x2F95C, .mapped [0x2597C]),
   (0x2F95D, .mapped [0x25AA7]), (0x2F95F, .mapped [0x7AEE]), (0x2F960, .mapped [0x4202]),
   (0x2F961, .mapped [0x25BAB]), (0x2F962, .mapped [0x7BC6]), (0x2F963, .mapped [0x7BC9]),
   (0x2F964, .mapped [0x4227]), (0x2F965, .mapped [0x25C80]), (0x2F966, .mapped [0x7CD2]),
   (0x2F967, .mapped [0x42A0]), (0x2F968, .mapped [0x7CE8]), (0x2F969, .mapped [0x7CE3]),
   (0x2F96A, .mapped [0x7D00]), (0x2F96B, .mapped [0x25F86]), (0x2F96C, .mapped [0x7D63]),
   (0x2F96D, .mapped [0x4301]), (0x2F96E, .mapped [0x7DC7]), (0x2F96F, .mapped [0x7E02]),
   (0x2F970, .mapped [0x7E45]), (0x2F971, .mapped [0x4334]), (0x2F972, .mapped [0x26228]),
   (0x2F973, .mapped [0x26247]), (0x2F974, .mapped [0x4359]), (0x2F975, .mapped [0x262D9]),
   (0x2F976, .mapped [0x7F7A]), (0x2F977, .mapped [0x2633E]), (0x2F978, .mapped [0x7F95]),
   (0x2F979, .mapped [0x7FFA]), (0x2F97A, .mapped [0x8005]), (0x2F97B, .mapped [0x264DA]),
   (0x2F97C, .mapped [0x26523]), (0x2F97D, .mapped [0x8060]), (0x2F97E, .mapped [0x265A8]),
   (0x2F97F, .mapped [0x8070]), (0x2F980, .mapped [0x2335F]), (0x2F981, .mapped [0x43D5]),
   (0x2F982, .mapped [0x80B2]), (0x2F983, .mapped [0x8103]), (0x2F984, .mapped [0x440B]),
   (0x2F985, .mapped [0x813E]), (0x2F986, .mapped [0x5AB5]), (0x2F987, .mapped [0x267A7]),
   (0x2F988, .mapped [0x267B5]), (0x2F989, .mapped [0x23393]), (0x2F98A, .mapped [0x2339C]),
   (0x2F98B, .mapped [0x8201]), (0x2F98C, .mapped [0x8204]), (0x2F98D, .mapped [0x8F9E]),
   (0x2F98E, .mapped [0x446B]), (0x2F98F, .mapped [0x8291]), (0x2F990, .mapped [0x828B]),
   (0x2F991, .mapped [0x829D]), (0x2F992, .mapped [0x52B3]), (0x2F993, .mapped [0x82B1]),
   (0x2F994, .mapped [0x82B3]), (0x2F995, .mapped [0x82BD]), (0x2F996, .mapped [0x82E6]),
   (0x2F997, .mapped [0x26B3C]), (0x2F998, .mapped [0x82E5]), (0x2F999, .mapped [0x831D]),
   (0x2F99A, .mapped [0x8363]), (0x2F99B, .mapped [0x83AD]), (0x2F99C, .mapped [0x8323]),
   (0x2F99D, .mapped [0x83BD]), (0x2F99E, .mapped [0x83E7]), (0x2F99F, .mapped [0x8457]),
   (0x2F9A0, .mapped [0x8353]), (0x2F9A1, .mapped [0x83CA]), (0x2F9A2, .mapped [0x83CC]),
   (0x2F9A3, .mapped [0x83DC]), (0x2F9A4, .mapped [0x26C36]), (0x2F9A5, .mapped [0x26D6B]),
   (0x2F9A6, .mapped [0x26CD5]), (0x2F9A7, .mapped [0x452B]), (0x2F9A8, .mapped [0x84F1]),
   (0x2F9A9, .mapped [0x84F3]), (0x2F9AA, .mapped [0x8516]), (0x2F9AB, .mapped [0x273CA]),
   (0x2F9AC, .mapped [0x8564]), (0x2F9AD, .mapped [0x26F2C]), (0x2F9AE, .mapped [0x455D]),
   (0x2F9AF, .mapped [0x4561]), (0x2F9B0, .mapped [0x26FB1]), (0x2F9B1, .mapped [0x270D2]),
   (0x2F9B2, .mapped [0x456B]), (0x2F9B3, .mapped [0x8650]), (0x2F9B4, .mapped [0x865C]),
   (0x2F9B5, .mapped [0x8667]), (0x2F9B6, .mapped [0x8669]), (0x2F9B7, .mapped [0x86A9]),
   (0x2F9B8, .mapped [0x8688]), (0x2F9B9, .mapped [0x870E]), (0x2F9BA, .mapped [0x86E2]),
   (0x2F9BB, .mapped [0x8779]), (0x2F9BC, .mapped [0x8728]), (0x2F9BD, .mapped [0x876B]),
   (0x2F9BE, .mapped [0x8786]), (0x2F9BF, .mapped [0x45D7]), (0x2F9C0, .mapped [0x87E1]),
   (0x2F9C1, .mapped [0x8801]), (0x2F9C2, .mapped [0x45F9]), (0x2F9C3, .mapped [0x8860]),
   (0x2F9C4, .mapped [0x8863]), (0x2F9C5, .mapped [0x27667]), (0x2F9C6, .mapped [0x88D7]),
   (0x2F9C7, .mapped [0x88DE]), (0x2F9C8, .mapped [0x4635]), (0x2F9C9, .mapped [0x88FA]),
   (0x2F9CA, .mapped [0x34BB]), (0x2F9CB, .mapped [0x278AE]), (0x2F9CC, .mapped [0x27966]),
   (0x2F9CD, .mapped [0x46BE]), (0x2F9CE, .mapped [0x46C7]), (0x2F9CF, .mapped [0x8AA0]),
   (0x2F9D0, .mapped [0x8AED]), (0x2F9D1, .mapped [0x8B8A]), (0x2F9D2, .mapped [0x8C55]),
   (0x2F9D3, .mapped [0x27CA8]), (0x2F9D4, .mapped [0x8CAB]), (0x2F9D5, .mapped [0x8CC1]),
   (0x2F9D6, .mapped [0x8D1B]), (0x2F9D7, .mapped [0x8D77]), (0x2F9D8, .mapped [0x27F2F]),
   (0x2F9D9, .mapped [0x20804]), (0x2F9DA, .mapped [0x8DCB]), (0x2F9DB, .mapped [0x8DBC]),
   (0x2F9DC, .mapped [0x8DF0]), (0x2F9DD, .mapped [0x208DE]), (0x2F9DE, .mapped [0x8ED4]),
   (0x2F9DF, .mapped [0x8F38]), (0x2F9E0, .mapped [0x285D2]), (0x2F9E1, .mapped [0x285ED]),
   (0x2F9E2, .mapped [0x9094]), (0x2F9E3, .mapped [0x90F1]), (0x2F9E4, .mapped [0x9111]),
   (0x2F9E5, .mapped [0x2872E]), (0x2F9E6, .mapped [0x911B]), (0x2F9E7, .mapped [0x9238]),
   (0x2F9E8, .shifted (-157457)), (0x2F9EA, .mapped [0x927C]), (0x2F9EB, .mapped [0x93F9]),
   (0x2F9EC, .mapped [0x9415]), (0x2F9ED, .mapped [0x28BFA]), (0x2F9EE, .mapped [0x958B]),
   (0x2F9EF, .mapped [0x4995]), (0x2F9F0, .mapped [0x95B7]), (0x2F9F1, .mapped [0x28D77]),
   (0x2F9F2, .mapped [0x49E6]), (0x2F9F3, .mapped [0x96C3]), (0x2F9F4, .mapped [0x5DB2]),
   (0x2F9F5, .mapped [0x9723]), (0x2F9F6, .mapped [0x29145]), (0x2F9F7, .mapped [0x2921A]),
   (0x2F9F8, .mapped [0x4A6E]), (0x2F9F9, .mapped [0x4A76]), (0x2F9FA, .mapped [0x97E0]),
   (0x2F9FB, .mapped [0x2940A]), (0x2F9FC, .mapped [0x4AB2]), (0x2F9FD, .mapped [0x29496]),
   (0x2F9FE, .mapped [0x980B]), (0x2FA00, .mapped [0x9829]), (0x2FA01, .mapped [0x295B6]),
   (0x2FA02, .mapped [0x98E2]), (0x2FA03, .mapped [0x4B33]), (0x2FA04, .mapped [0x9929]),
   (0x2FA05, .mapped [0x99A7]), (0x2FA06, .mapped [0x99C2]), (0x2FA07, .mapped [0x99FE]),
   (0x2FA08, .mapped [0x4BCE]), (0x2FA09, .mapped [0x29B30]), (0x2FA0A, .mapped [0x9B12]),
   (0x2FA0B, .mapped [0x9C40]), (0x2FA0C, .mapped [0x9CFD]), (0x2FA0D, .mapped [0x4CCE]),
   (0x2FA0E, .mapped [0x4CED]), (0x2FA0F, .mapped [0x9D67]), (0x2FA10, .mapped [0x2A0CE]),
   (0x2FA11, .mapped [0x4CF8]), (0x2FA12, .mapped [0x2A105]), (0x2FA13, .mapped [0x2A20E]),
   (0x2FA14, .mapped [0x2A291]), (0x2FA15, .mapped [0x9EBB]), (0x2FA16, .mapped [0x4D56]),
   (0x2FA17, .mapped [0x9EF9]), (0x2FA18, .mapped [0x9EFE]), (0x2FA19, .mapped [0x9F05]),
   (0x2FA1A, .mapped [0x9F0F]), (0x2FA1B, .mapped [0x9F16]), (0x2FA1C, .mapped [0x9F3B]),
   (0x2FA1D, .mapped [0x2A600]), (0x2FA1E, .disallowed), (0x30000, .valid),
   (0x3134B, .disallowed), (0x31350, .valid), (0x3347A, .disallowed),
   (0xE0100, .ignored), (0xE01F0, .disallowed)]

/-- The status from each code point on where it changes, in increasing order. -/
def idnaStarts : Array (Nat × IdnaStatus) :=
  (idnaStartsPart0 ++
    idnaStartsPart1 ++
    idnaStartsPart2 ++
    idnaStartsPart3 ++
    idnaStartsPart4 ++
    idnaStartsPart5 ++
    idnaStartsPart6 ++
    idnaStartsPart7 ++
    idnaStartsPart8).toArray

end LiveViewer.Url
