import OptionBindings.Text.Basic

/-!
# Characters of XML names

The letters and ideographs that start a name, and the combining characters, digits and extenders
that go on with one, by the fourth edition of XML 1.0. Punctuation is not listed.
-/

namespace OptionBindings.Xml.NameTable

open Text

def letters : List Span :=
  [⟨0x41, 0x5a, 1⟩, ⟨0x61, 0x7a, 1⟩, ⟨0xc0, 0xd6, 1⟩, ⟨0xd8, 0xf6, 1⟩, ⟨0xf8, 0x131, 1⟩,
   ⟨0x134, 0x13e, 1⟩, ⟨0x141, 0x148, 1⟩, ⟨0x14a, 0x17e, 1⟩, ⟨0x180, 0x1c3, 1⟩, ⟨0x1cd, 0x1f0, 1⟩,
   ⟨0x1f4, 0x1f5, 1⟩, ⟨0x1fa, 0x217, 1⟩, ⟨0x250, 0x2a8, 1⟩, ⟨0x2bb, 0x2c1, 1⟩, ⟨0x386, 0x386, 1⟩,
   ⟨0x388, 0x38a, 1⟩, ⟨0x38c, 0x38c, 1⟩, ⟨0x38e, 0x3a1, 1⟩, ⟨0x3a3, 0x3ce, 1⟩, ⟨0x3d0, 0x3d6, 1⟩,
   ⟨0x3da, 0x3e0, 2⟩, ⟨0x3e2, 0x3f3, 1⟩, ⟨0x401, 0x40c, 1⟩, ⟨0x40e, 0x44f, 1⟩, ⟨0x451, 0x45c, 1⟩,
   ⟨0x45e, 0x481, 1⟩, ⟨0x490, 0x4c4, 1⟩, ⟨0x4c7, 0x4c8, 1⟩, ⟨0x4cb, 0x4cc, 1⟩, ⟨0x4d0, 0x4eb, 1⟩,
   ⟨0x4ee, 0x4f5, 1⟩, ⟨0x4f8, 0x4f9, 1⟩, ⟨0x531, 0x556, 1⟩, ⟨0x559, 0x559, 1⟩, ⟨0x561, 0x586, 1⟩,
   ⟨0x5d0, 0x5ea, 1⟩, ⟨0x5f0, 0x5f2, 1⟩, ⟨0x621, 0x63a, 1⟩, ⟨0x641, 0x64a, 1⟩, ⟨0x671, 0x6b7, 1⟩,
   ⟨0x6ba, 0x6be, 1⟩, ⟨0x6c0, 0x6ce, 1⟩, ⟨0x6d0, 0x6d3, 1⟩, ⟨0x6d5, 0x6d5, 1⟩, ⟨0x6e5, 0x6e6, 1⟩,
   ⟨0x905, 0x939, 1⟩, ⟨0x93d, 0x93d, 1⟩, ⟨0x958, 0x961, 1⟩, ⟨0x985, 0x98c, 1⟩, ⟨0x98f, 0x990, 1⟩,
   ⟨0x993, 0x9a8, 1⟩, ⟨0x9aa, 0x9b0, 1⟩, ⟨0x9b2, 0x9b2, 1⟩, ⟨0x9b6, 0x9b9, 1⟩, ⟨0x9dc, 0x9dd, 1⟩,
   ⟨0x9df, 0x9e1, 1⟩, ⟨0x9f0, 0x9f1, 1⟩, ⟨0xa05, 0xa0a, 1⟩, ⟨0xa0f, 0xa10, 1⟩, ⟨0xa13, 0xa28, 1⟩,
   ⟨0xa2a, 0xa30, 1⟩, ⟨0xa32, 0xa33, 1⟩, ⟨0xa35, 0xa36, 1⟩, ⟨0xa38, 0xa39, 1⟩, ⟨0xa59, 0xa5c, 1⟩,
   ⟨0xa5e, 0xa5e, 1⟩, ⟨0xa72, 0xa74, 1⟩, ⟨0xa85, 0xa8b, 1⟩, ⟨0xa8d, 0xa8d, 1⟩, ⟨0xa8f, 0xa91, 1⟩,
   ⟨0xa93, 0xaa8, 1⟩, ⟨0xaaa, 0xab0, 1⟩, ⟨0xab2, 0xab3, 1⟩, ⟨0xab5, 0xab9, 1⟩, ⟨0xabd, 0xabd, 1⟩,
   ⟨0xae0, 0xae0, 1⟩, ⟨0xb05, 0xb0c, 1⟩, ⟨0xb0f, 0xb10, 1⟩, ⟨0xb13, 0xb28, 1⟩, ⟨0xb2a, 0xb30, 1⟩,
   ⟨0xb32, 0xb33, 1⟩, ⟨0xb36, 0xb39, 1⟩, ⟨0xb3d, 0xb3d, 1⟩, ⟨0xb5c, 0xb5d, 1⟩, ⟨0xb5f, 0xb61, 1⟩,
   ⟨0xb85, 0xb8a, 1⟩, ⟨0xb8e, 0xb90, 1⟩, ⟨0xb92, 0xb95, 1⟩, ⟨0xb99, 0xb9a, 1⟩, ⟨0xb9c, 0xb9c, 1⟩,
   ⟨0xb9e, 0xb9f, 1⟩, ⟨0xba3, 0xba4, 1⟩, ⟨0xba8, 0xbaa, 1⟩, ⟨0xbae, 0xbb5, 1⟩, ⟨0xbb7, 0xbb9, 1⟩,
   ⟨0xc05, 0xc0c, 1⟩, ⟨0xc0e, 0xc10, 1⟩, ⟨0xc12, 0xc28, 1⟩, ⟨0xc2a, 0xc33, 1⟩, ⟨0xc35, 0xc39, 1⟩,
   ⟨0xc60, 0xc61, 1⟩, ⟨0xc85, 0xc8c, 1⟩, ⟨0xc8e, 0xc90, 1⟩, ⟨0xc92, 0xca8, 1⟩, ⟨0xcaa, 0xcb3, 1⟩,
   ⟨0xcb5, 0xcb9, 1⟩, ⟨0xcde, 0xcde, 1⟩, ⟨0xce0, 0xce1, 1⟩, ⟨0xd05, 0xd0c, 1⟩, ⟨0xd0e, 0xd10, 1⟩,
   ⟨0xd12, 0xd28, 1⟩, ⟨0xd2a, 0xd39, 1⟩, ⟨0xd60, 0xd61, 1⟩, ⟨0xe01, 0xe2e, 1⟩, ⟨0xe30, 0xe30, 1⟩,
   ⟨0xe32, 0xe33, 1⟩, ⟨0xe40, 0xe45, 1⟩, ⟨0xe81, 0xe82, 1⟩, ⟨0xe84, 0xe84, 1⟩, ⟨0xe87, 0xe88, 1⟩,
   ⟨0xe8a, 0xe8a, 1⟩, ⟨0xe8d, 0xe8d, 1⟩, ⟨0xe94, 0xe97, 1⟩, ⟨0xe99, 0xe9f, 1⟩, ⟨0xea1, 0xea3, 1⟩,
   ⟨0xea5, 0xea7, 2⟩, ⟨0xeaa, 0xeab, 1⟩, ⟨0xead, 0xeae, 1⟩, ⟨0xeb0, 0xeb0, 1⟩, ⟨0xeb2, 0xeb3, 1⟩,
   ⟨0xebd, 0xebd, 1⟩, ⟨0xec0, 0xec4, 1⟩, ⟨0xf40, 0xf47, 1⟩, ⟨0xf49, 0xf69, 1⟩,
   ⟨0x10a0, 0x10c5, 1⟩, ⟨0x10d0, 0x10f6, 1⟩, ⟨0x1100, 0x1100, 1⟩, ⟨0x1102, 0x1103, 1⟩,
   ⟨0x1105, 0x1107, 1⟩, ⟨0x1109, 0x1109, 1⟩, ⟨0x110b, 0x110c, 1⟩, ⟨0x110e, 0x1112, 1⟩,
   ⟨0x113c, 0x1140, 2⟩, ⟨0x114c, 0x1150, 2⟩, ⟨0x1154, 0x1155, 1⟩, ⟨0x1159, 0x1159, 1⟩,
   ⟨0x115f, 0x1161, 1⟩, ⟨0x1163, 0x1169, 2⟩, ⟨0x116d, 0x116e, 1⟩, ⟨0x1172, 0x1173, 1⟩,
   ⟨0x1175, 0x1175, 1⟩, ⟨0x119e, 0x119e, 1⟩, ⟨0x11a8, 0x11a8, 1⟩, ⟨0x11ab, 0x11ab, 1⟩,
   ⟨0x11ae, 0x11af, 1⟩, ⟨0x11b7, 0x11b8, 1⟩, ⟨0x11ba, 0x11ba, 1⟩, ⟨0x11bc, 0x11c2, 1⟩,
   ⟨0x11eb, 0x11eb, 1⟩, ⟨0x11f0, 0x11f0, 1⟩, ⟨0x11f9, 0x11f9, 1⟩, ⟨0x1e00, 0x1e9b, 1⟩,
   ⟨0x1ea0, 0x1ef9, 1⟩, ⟨0x1f00, 0x1f15, 1⟩, ⟨0x1f18, 0x1f1d, 1⟩, ⟨0x1f20, 0x1f45, 1⟩,
   ⟨0x1f48, 0x1f4d, 1⟩, ⟨0x1f50, 0x1f57, 1⟩, ⟨0x1f59, 0x1f5d, 2⟩, ⟨0x1f5f, 0x1f7d, 1⟩,
   ⟨0x1f80, 0x1fb4, 1⟩, ⟨0x1fb6, 0x1fbc, 1⟩, ⟨0x1fbe, 0x1fbe, 1⟩, ⟨0x1fc2, 0x1fc4, 1⟩,
   ⟨0x1fc6, 0x1fcc, 1⟩, ⟨0x1fd0, 0x1fd3, 1⟩, ⟨0x1fd6, 0x1fdb, 1⟩, ⟨0x1fe0, 0x1fec, 1⟩,
   ⟨0x1ff2, 0x1ff4, 1⟩, ⟨0x1ff6, 0x1ffc, 1⟩, ⟨0x2126, 0x2126, 1⟩, ⟨0x212a, 0x212b, 1⟩,
   ⟨0x212e, 0x212e, 1⟩, ⟨0x2180, 0x2182, 1⟩, ⟨0x3007, 0x3007, 1⟩, ⟨0x3021, 0x3029, 1⟩,
   ⟨0x3041, 0x3094, 1⟩, ⟨0x30a1, 0x30fa, 1⟩, ⟨0x3105, 0x312c, 1⟩, ⟨0x4e00, 0x9fa5, 1⟩,
   ⟨0xac00, 0xd7a3, 1⟩]

def extenders : List Span :=
  [⟨0x30, 0x39, 1⟩, ⟨0xb7, 0xb7, 1⟩, ⟨0x2d0, 0x2d1, 1⟩, ⟨0x300, 0x345, 1⟩, ⟨0x360, 0x361, 1⟩,
   ⟨0x387, 0x387, 1⟩, ⟨0x483, 0x486, 1⟩, ⟨0x591, 0x5a1, 1⟩, ⟨0x5a3, 0x5b9, 1⟩, ⟨0x5bb, 0x5bd, 1⟩,
   ⟨0x5bf, 0x5bf, 1⟩, ⟨0x5c1, 0x5c2, 1⟩, ⟨0x5c4, 0x5c4, 1⟩, ⟨0x640, 0x640, 1⟩, ⟨0x64b, 0x652, 1⟩,
   ⟨0x660, 0x669, 1⟩, ⟨0x670, 0x670, 1⟩, ⟨0x6d6, 0x6e4, 1⟩, ⟨0x6e7, 0x6e8, 1⟩, ⟨0x6ea, 0x6ed, 1⟩,
   ⟨0x6f0, 0x6f9, 1⟩, ⟨0x901, 0x903, 1⟩, ⟨0x93c, 0x93c, 1⟩, ⟨0x93e, 0x94d, 1⟩, ⟨0x951, 0x954, 1⟩,
   ⟨0x962, 0x963, 1⟩, ⟨0x966, 0x96f, 1⟩, ⟨0x981, 0x983, 1⟩, ⟨0x9bc, 0x9bc, 1⟩, ⟨0x9be, 0x9c4, 1⟩,
   ⟨0x9c7, 0x9c8, 1⟩, ⟨0x9cb, 0x9cd, 1⟩, ⟨0x9d7, 0x9d7, 1⟩, ⟨0x9e2, 0x9e3, 1⟩, ⟨0x9e6, 0x9ef, 1⟩,
   ⟨0xa02, 0xa02, 1⟩, ⟨0xa3c, 0xa3c, 1⟩, ⟨0xa3e, 0xa42, 1⟩, ⟨0xa47, 0xa48, 1⟩, ⟨0xa4b, 0xa4d, 1⟩,
   ⟨0xa66, 0xa71, 1⟩, ⟨0xa81, 0xa83, 1⟩, ⟨0xabc, 0xabc, 1⟩, ⟨0xabe, 0xac5, 1⟩, ⟨0xac7, 0xac9, 1⟩,
   ⟨0xacb, 0xacd, 1⟩, ⟨0xae6, 0xaef, 1⟩, ⟨0xb01, 0xb03, 1⟩, ⟨0xb3c, 0xb3c, 1⟩, ⟨0xb3e, 0xb43, 1⟩,
   ⟨0xb47, 0xb48, 1⟩, ⟨0xb4b, 0xb4d, 1⟩, ⟨0xb56, 0xb57, 1⟩, ⟨0xb66, 0xb6f, 1⟩, ⟨0xb82, 0xb83, 1⟩,
   ⟨0xbbe, 0xbc2, 1⟩, ⟨0xbc6, 0xbc8, 1⟩, ⟨0xbca, 0xbcd, 1⟩, ⟨0xbd7, 0xbd7, 1⟩, ⟨0xbe7, 0xbef, 1⟩,
   ⟨0xc01, 0xc03, 1⟩, ⟨0xc3e, 0xc44, 1⟩, ⟨0xc46, 0xc48, 1⟩, ⟨0xc4a, 0xc4d, 1⟩, ⟨0xc55, 0xc56, 1⟩,
   ⟨0xc66, 0xc6f, 1⟩, ⟨0xc82, 0xc83, 1⟩, ⟨0xcbe, 0xcc4, 1⟩, ⟨0xcc6, 0xcc8, 1⟩, ⟨0xcca, 0xccd, 1⟩,
   ⟨0xcd5, 0xcd6, 1⟩, ⟨0xce6, 0xcef, 1⟩, ⟨0xd02, 0xd03, 1⟩, ⟨0xd3e, 0xd43, 1⟩, ⟨0xd46, 0xd48, 1⟩,
   ⟨0xd4a, 0xd4d, 1⟩, ⟨0xd57, 0xd57, 1⟩, ⟨0xd66, 0xd6f, 1⟩, ⟨0xe31, 0xe31, 1⟩, ⟨0xe34, 0xe3a, 1⟩,
   ⟨0xe46, 0xe4e, 1⟩, ⟨0xe50, 0xe59, 1⟩, ⟨0xeb1, 0xeb1, 1⟩, ⟨0xeb4, 0xeb9, 1⟩, ⟨0xebb, 0xebc, 1⟩,
   ⟨0xec6, 0xec6, 1⟩, ⟨0xec8, 0xecd, 1⟩, ⟨0xed0, 0xed9, 1⟩, ⟨0xf18, 0xf19, 1⟩, ⟨0xf20, 0xf29, 1⟩,
   ⟨0xf35, 0xf39, 2⟩, ⟨0xf3e, 0xf3f, 1⟩, ⟨0xf71, 0xf84, 1⟩, ⟨0xf86, 0xf8b, 1⟩, ⟨0xf90, 0xf95, 1⟩,
   ⟨0xf97, 0xf97, 1⟩, ⟨0xf99, 0xfad, 1⟩, ⟨0xfb1, 0xfb7, 1⟩, ⟨0xfb9, 0xfb9, 1⟩,
   ⟨0x20d0, 0x20dc, 1⟩, ⟨0x20e1, 0x20e1, 1⟩, ⟨0x3005, 0x3005, 1⟩, ⟨0x302a, 0x302f, 1⟩,
   ⟨0x3031, 0x3035, 1⟩, ⟨0x3099, 0x309a, 1⟩, ⟨0x309d, 0x309e, 1⟩, ⟨0x30fc, 0x30fe, 1⟩]

end OptionBindings.Xml.NameTable
