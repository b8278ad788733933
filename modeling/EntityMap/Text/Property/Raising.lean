import EntityMap.Text.Property.Range

/-!
# Characters that upper-casing changes

The Unicode property `Changes_When_Uppercased`.
-/

namespace EntityMap.Text

/-- The code points whose full upper-case form differs from them. -/
def raisedRuns : List Run :=
  [⟨0x0061, 0x007a, 1⟩, ⟨0x00b5, 0x00b5, 1⟩, ⟨0x00df, 0x00f6, 1⟩, ⟨0x00f8, 0x00ff, 1⟩,
   ⟨0x0101, 0x0137, 2⟩, ⟨0x013a, 0x0148, 2⟩, ⟨0x0149, 0x0177, 2⟩, ⟨0x017a, 0x017e, 2⟩,
   ⟨0x017f, 0x0180, 1⟩, ⟨0x0183, 0x0185, 2⟩, ⟨0x0188, 0x0188, 1⟩, ⟨0x018c, 0x018c, 1⟩,
   ⟨0x0192, 0x0192, 1⟩, ⟨0x0195, 0x0195, 1⟩, ⟨0x0199, 0x019b, 1⟩, ⟨0x019e, 0x019e, 1⟩,
   ⟨0x01a1, 0x01a5, 2⟩, ⟨0x01a8, 0x01a8, 1⟩, ⟨0x01ad, 0x01ad, 1⟩, ⟨0x01b0, 0x01b0, 1⟩,
   ⟨0x01b4, 0x01b6, 2⟩, ⟨0x01b9, 0x01b9, 1⟩, ⟨0x01bd, 0x01bf, 2⟩, ⟨0x01c5, 0x01c6, 1⟩,
   ⟨0x01c8, 0x01c9, 1⟩, ⟨0x01cb, 0x01cc, 1⟩, ⟨0x01ce, 0x01dc, 2⟩, ⟨0x01dd, 0x01ef, 2⟩,
   ⟨0x01f0, 0x01f2, 2⟩, ⟨0x01f3, 0x01f5, 2⟩, ⟨0x01f9, 0x021f, 2⟩, ⟨0x0223, 0x0233, 2⟩,
   ⟨0x023c, 0x023c, 1⟩, ⟨0x023f, 0x0240, 1⟩, ⟨0x0242, 0x0242, 1⟩, ⟨0x0247, 0x024f, 2⟩,
   ⟨0x0250, 0x0254, 1⟩, ⟨0x0256, 0x0257, 1⟩, ⟨0x0259, 0x025b, 2⟩, ⟨0x025c, 0x025c, 1⟩,
   ⟨0x0260, 0x0261, 1⟩, ⟨0x0263, 0x0266, 1⟩, ⟨0x0268, 0x026c, 1⟩, ⟨0x026f, 0x0271, 2⟩,
   ⟨0x0272, 0x0272, 1⟩, ⟨0x0275, 0x0275, 1⟩, ⟨0x027d, 0x027d, 1⟩, ⟨0x0280, 0x0282, 2⟩,
   ⟨0x0283, 0x0283, 1⟩, ⟨0x0287, 0x028c, 1⟩, ⟨0x0292, 0x0292, 1⟩, ⟨0x029d, 0x029e, 1⟩,
   ⟨0x0345, 0x0345, 1⟩, ⟨0x0371, 0x0373, 2⟩, ⟨0x0377, 0x0377, 1⟩, ⟨0x037b, 0x037d, 1⟩,
   ⟨0x0390, 0x0390, 1⟩, ⟨0x03ac, 0x03ce, 1⟩, ⟨0x03d0, 0x03d1, 1⟩, ⟨0x03d5, 0x03d7, 1⟩,
   ⟨0x03d9, 0x03ef, 2⟩, ⟨0x03f0, 0x03f3, 1⟩, ⟨0x03f5, 0x03f5, 1⟩, ⟨0x03f8, 0x03f8, 1⟩,
   ⟨0x03fb, 0x03fb, 1⟩, ⟨0x0430, 0x045f, 1⟩, ⟨0x0461, 0x0481, 2⟩, ⟨0x048b, 0x04bf, 2⟩,
   ⟨0x04c2, 0x04ce, 2⟩, ⟨0x04cf, 0x052f, 2⟩, ⟨0x0561, 0x0587, 1⟩, ⟨0x10d0, 0x10fa, 1⟩,
   ⟨0x10fd, 0x10ff, 1⟩, ⟨0x13f8, 0x13fd, 1⟩, ⟨0x1c80, 0x1c88, 1⟩, ⟨0x1c8a, 0x1c8a, 1⟩,
   ⟨0x1d79, 0x1d79, 1⟩, ⟨0x1d7d, 0x1d7d, 1⟩, ⟨0x1d8e, 0x1d8e, 1⟩, ⟨0x1e01, 0x1e95, 2⟩,
   ⟨0x1e96, 0x1e9b, 1⟩, ⟨0x1ea1, 0x1eff, 2⟩, ⟨0x1f00, 0x1f07, 1⟩, ⟨0x1f10, 0x1f15, 1⟩,
   ⟨0x1f20, 0x1f27, 1⟩, ⟨0x1f30, 0x1f37, 1⟩, ⟨0x1f40, 0x1f45, 1⟩, ⟨0x1f50, 0x1f57, 1⟩,
   ⟨0x1f60, 0x1f67, 1⟩, ⟨0x1f70, 0x1f7d, 1⟩, ⟨0x1f80, 0x1fb4, 1⟩, ⟨0x1fb6, 0x1fb7, 1⟩,
   ⟨0x1fbc, 0x1fbe, 2⟩, ⟨0x1fc2, 0x1fc4, 1⟩, ⟨0x1fc6, 0x1fc7, 1⟩, ⟨0x1fcc, 0x1fcc, 1⟩,
   ⟨0x1fd0, 0x1fd3, 1⟩, ⟨0x1fd6, 0x1fd7, 1⟩, ⟨0x1fe0, 0x1fe7, 1⟩, ⟨0x1ff2, 0x1ff4, 1⟩,
   ⟨0x1ff6, 0x1ff7, 1⟩, ⟨0x1ffc, 0x1ffc, 1⟩, ⟨0x214e, 0x214e, 1⟩, ⟨0x2170, 0x217f, 1⟩,
   ⟨0x2184, 0x2184, 1⟩, ⟨0x24d0, 0x24e9, 1⟩, ⟨0x2c30, 0x2c5f, 1⟩, ⟨0x2c61, 0x2c61, 1⟩,
   ⟨0x2c65, 0x2c66, 1⟩, ⟨0x2c68, 0x2c6c, 2⟩, ⟨0x2c73, 0x2c73, 1⟩, ⟨0x2c76, 0x2c76, 1⟩,
   ⟨0x2c81, 0x2ce3, 2⟩, ⟨0x2cec, 0x2cee, 2⟩, ⟨0x2cf3, 0x2cf3, 1⟩, ⟨0x2d00, 0x2d25, 1⟩,
   ⟨0x2d27, 0x2d27, 1⟩, ⟨0x2d2d, 0x2d2d, 1⟩, ⟨0xa641, 0xa66d, 2⟩, ⟨0xa681, 0xa69b, 2⟩,
   ⟨0xa723, 0xa72f, 2⟩, ⟨0xa733, 0xa76f, 2⟩, ⟨0xa77a, 0xa77c, 2⟩, ⟨0xa77f, 0xa787, 2⟩,
   ⟨0xa78c, 0xa78c, 1⟩, ⟨0xa791, 0xa793, 2⟩, ⟨0xa794, 0xa794, 1⟩, ⟨0xa797, 0xa7a9, 2⟩,
   ⟨0xa7b5, 0xa7c3, 2⟩, ⟨0xa7c8, 0xa7ca, 2⟩, ⟨0xa7cd, 0xa7db, 2⟩, ⟨0xa7f6, 0xa7f6, 1⟩,
   ⟨0xab53, 0xab53, 1⟩, ⟨0xab70, 0xabbf, 1⟩, ⟨0xfb00, 0xfb06, 1⟩, ⟨0xfb13, 0xfb17, 1⟩,
   ⟨0xff41, 0xff5a, 1⟩, ⟨0x10428, 0x1044f, 1⟩, ⟨0x104d8, 0x104fb, 1⟩, ⟨0x10597, 0x105a1, 1⟩,
   ⟨0x105a3, 0x105b1, 1⟩, ⟨0x105b3, 0x105b9, 1⟩, ⟨0x105bb, 0x105bc, 1⟩, ⟨0x10cc0, 0x10cf2, 1⟩,
   ⟨0x10d70, 0x10d85, 1⟩, ⟨0x118c0, 0x118df, 1⟩, ⟨0x16e60, 0x16e7f, 1⟩, ⟨0x16ebb, 0x16ed3, 1⟩,
   ⟨0x1e922, 0x1e943, 1⟩]

/-- Upper-casing changes the character. -/
def changesWhenRaised (c : Char) : Bool := Run.covers raisedRuns c

end EntityMap.Text
