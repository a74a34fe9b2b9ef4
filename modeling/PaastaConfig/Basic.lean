import Mathlib.Data.String.Basic
import Mathlib.Data.List.Sort

/-!
# Configuration values, exceptions and constants

The loaders of `paasta_tools.util.config_loading` pass around whatever `json.load`
or the YAML reader of `service_configuration_lib` produced: `None`, booleans,
numbers, strings, lists and dicts with string keys. `Value` is that universe.

A Python dict is modelled by the list of its items, in the order the dict holds them:
`repr`, iteration and `dict.update` read them in that order (`Value.pyRepr`, `Value.iter`).
Every dict that a loader reads from a file or builds by a merge is kept with its keys in
increasing order (`Value.Canonical`, `Document`), so that two such dicts are equal as mappings
exactly when their models are equal, which is how the loaders' results are compared. Python
keeps the order in which the file lists the keys instead; where the modelled code reads the
order of such a dict (the `repr` of a dict in a message, a dict iterated as a sequence, the
order in which instance names are listed), the model reads it in key order. Dicts that no
loader built, such as the value of an instance's `env`, may hold their items in any order.
Keys are compared as Python compares `str` values, code point by code point (`KeyLt`).

A float is kept as the text of its `repr`, which is all the modelled code observes of
it besides its type. Values compare structurally, so `1`, `1.0` and `True` are three
different values here while Python's `==` identifies them; where the modelled code relies on
that identification, as `dict.update` does for the keys of an instance's `env`, the model
compares as Python does (`Value.sameKey`).

`PyError` names the exception classes the modelled code raises, with the message
where the code builds one. The constants of `paasta_tools.util.const`, which is not
among the sources, are a parameter (`PaastaConst`).
-/

namespace PaastaConfig

/-- A range of code points, from `first` to `last`. -/
structure CodePointRange where
  /-- The first code point of the range. -/
  first : Nat
  /-- The last code point of the range. -/
  last : Nat

/-- The code points from `0x7F` on for which `Py_UNICODE_ISPRINTABLE` fails in CPython 3.11,
whose Unicode database is version 14.0.0: the categories Cc, Cf, Cs, Co, Cn, Zl, Zp, and Zs but
the space. -/
def nonPrintable : List CodePointRange := [
  CodePointRange.mk 0x7F 0xA0, CodePointRange.mk 0xAD 0xAD, CodePointRange.mk 0x378 0x379,
  CodePointRange.mk 0x380 0x383, CodePointRange.mk 0x38B 0x38B, CodePointRange.mk 0x38D 0x38D,
  CodePointRange.mk 0x3A2 0x3A2, CodePointRange.mk 0x530 0x530, CodePointRange.mk 0x557 0x558,
  CodePointRange.mk 0x58B 0x58C, CodePointRange.mk 0x590 0x590, CodePointRange.mk 0x5C8 0x5CF,
  CodePointRange.mk 0x5EB 0x5EE, CodePointRange.mk 0x5F5 0x605, CodePointRange.mk 0x61C 0x61C,
  CodePointRange.mk 0x6DD 0x6DD, CodePointRange.mk 0x70E 0x70F, CodePointRange.mk 0x74B 0x74C,
  CodePointRange.mk 0x7B2 0x7BF, CodePointRange.mk 0x7FB 0x7FC, CodePointRange.mk 0x82E 0x82F,
  CodePointRange.mk 0x83F 0x83F, CodePointRange.mk 0x85C 0x85D, CodePointRange.mk 0x85F 0x85F,
  CodePointRange.mk 0x86B 0x86F, CodePointRange.mk 0x88F 0x897, CodePointRange.mk 0x8E2 0x8E2,
  CodePointRange.mk 0x984 0x984, CodePointRange.mk 0x98D 0x98E, CodePointRange.mk 0x991 0x992,
  CodePointRange.mk 0x9A9 0x9A9, CodePointRange.mk 0x9B1 0x9B1, CodePointRange.mk 0x9B3 0x9B5,
  CodePointRange.mk 0x9BA 0x9BB, CodePointRange.mk 0x9C5 0x9C6, CodePointRange.mk 0x9C9 0x9CA,
  CodePointRange.mk 0x9CF 0x9D6, CodePointRange.mk 0x9D8 0x9DB, CodePointRange.mk 0x9DE 0x9DE,
  CodePointRange.mk 0x9E4 0x9E5, CodePointRange.mk 0x9FF 0xA00, CodePointRange.mk 0xA04 0xA04,
  CodePointRange.mk 0xA0B 0xA0E, CodePointRange.mk 0xA11 0xA12, CodePointRange.mk 0xA29 0xA29,
  CodePointRange.mk 0xA31 0xA31, CodePointRange.mk 0xA34 0xA34, CodePointRange.mk 0xA37 0xA37,
  CodePointRange.mk 0xA3A 0xA3B, CodePointRange.mk 0xA3D 0xA3D, CodePointRange.mk 0xA43 0xA46,
  CodePointRange.mk 0xA49 0xA4A, CodePointRange.mk 0xA4E 0xA50, CodePointRange.mk 0xA52 0xA58,
  CodePointRange.mk 0xA5D 0xA5D, CodePointRange.mk 0xA5F 0xA65, CodePointRange.mk 0xA77 0xA80,
  CodePointRange.mk 0xA84 0xA84, CodePointRange.mk 0xA8E 0xA8E, CodePointRange.mk 0xA92 0xA92,
  CodePointRange.mk 0xAA9 0xAA9, CodePointRange.mk 0xAB1 0xAB1, CodePointRange.mk 0xAB4 0xAB4,
  CodePointRange.mk 0xABA 0xABB, CodePointRange.mk 0xAC6 0xAC6, CodePointRange.mk 0xACA 0xACA,
  CodePointRange.mk 0xACE 0xACF, CodePointRange.mk 0xAD1 0xADF, CodePointRange.mk 0xAE4 0xAE5,
  CodePointRange.mk 0xAF2 0xAF8, CodePointRange.mk 0xB00 0xB00, CodePointRange.mk 0xB04 0xB04,
  CodePointRange.mk 0xB0D 0xB0E, CodePointRange.mk 0xB11 0xB12, CodePointRange.mk 0xB29 0xB29,
  CodePointRange.mk 0xB31 0xB31, CodePointRange.mk 0xB34 0xB34, CodePointRange.mk 0xB3A 0xB3B,
  CodePointRange.mk 0xB45 0xB46, CodePointRange.mk 0xB49 0xB4A, CodePointRange.mk 0xB4E 0xB54,
  CodePointRange.mk 0xB58 0xB5B, CodePointRange.mk 0xB5E 0xB5E, CodePointRange.mk 0xB64 0xB65,
  CodePointRange.mk 0xB78 0xB81, CodePointRange.mk 0xB84 0xB84, CodePointRange.mk 0xB8B 0xB8D,
  CodePointRange.mk 0xB91 0xB91, CodePointRange.mk 0xB96 0xB98, CodePointRange.mk 0xB9B 0xB9B,
  CodePointRange.mk 0xB9D 0xB9D, CodePointRange.mk 0xBA0 0xBA2, CodePointRange.mk 0xBA5 0xBA7,
  CodePointRange.mk 0xBAB 0xBAD, CodePointRange.mk 0xBBA 0xBBD, CodePointRange.mk 0xBC3 0xBC5,
  CodePointRange.mk 0xBC9 0xBC9, CodePointRange.mk 0xBCE 0xBCF, CodePointRange.mk 0xBD1 0xBD6,
  CodePointRange.mk 0xBD8 0xBE5, CodePointRange.mk 0xBFB 0xBFF, CodePointRange.mk 0xC0D 0xC0D,
  CodePointRange.mk 0xC11 0xC11, CodePointRange.mk 0xC29 0xC29, CodePointRange.mk 0xC3A 0xC3B,
  CodePointRange.mk 0xC45 0xC45, CodePointRange.mk 0xC49 0xC49, CodePointRange.mk 0xC4E 0xC54,
  CodePointRange.mk 0xC57 0xC57, CodePointRange.mk 0xC5B 0xC5C, CodePointRange.mk 0xC5E 0xC5F,
  CodePointRange.mk 0xC64 0xC65, CodePointRange.mk 0xC70 0xC76, CodePointRange.mk 0xC8D 0xC8D,
  CodePointRange.mk 0xC91 0xC91, CodePointRange.mk 0xCA9 0xCA9, CodePointRange.mk 0xCB4 0xCB4,
  CodePointRange.mk 0xCBA 0xCBB, CodePointRange.mk 0xCC5 0xCC5, CodePointRange.mk 0xCC9 0xCC9,
  CodePointRange.mk 0xCCE 0xCD4, CodePointRange.mk 0xCD7 0xCDC, CodePointRange.mk 0xCDF 0xCDF,
  CodePointRange.mk 0xCE4 0xCE5, CodePointRange.mk 0xCF0 0xCF0, CodePointRange.mk 0xCF3 0xCFF,
  CodePointRange.mk 0xD0D 0xD0D, CodePointRange.mk 0xD11 0xD11, CodePointRange.mk 0xD45 0xD45,
  CodePointRange.mk 0xD49 0xD49, CodePointRange.mk 0xD50 0xD53, CodePointRange.mk 0xD64 0xD65,
  CodePointRange.mk 0xD80 0xD80, CodePointRange.mk 0xD84 0xD84, CodePointRange.mk 0xD97 0xD99,
  CodePointRange.mk 0xDB2 0xDB2, CodePointRange.mk 0xDBC 0xDBC, CodePointRange.mk 0xDBE 0xDBF,
  CodePointRange.mk 0xDC7 0xDC9, CodePointRange.mk 0xDCB 0xDCE, CodePointRange.mk 0xDD5 0xDD5,
  CodePointRange.mk 0xDD7 0xDD7, CodePointRange.mk 0xDE0 0xDE5, CodePointRange.mk 0xDF0 0xDF1,
  CodePointRange.mk 0xDF5 0xE00, CodePointRange.mk 0xE3B 0xE3E, CodePointRange.mk 0xE5C 0xE80,
  CodePointRange.mk 0xE83 0xE83, CodePointRange.mk 0xE85 0xE85, CodePointRange.mk 0xE8B 0xE8B,
  CodePointRange.mk 0xEA4 0xEA4, CodePointRange.mk 0xEA6 0xEA6, CodePointRange.mk 0xEBE 0xEBF,
  CodePointRange.mk 0xEC5 0xEC5, CodePointRange.mk 0xEC7 0xEC7, CodePointRange.mk 0xECE 0xECF,
  CodePointRange.mk 0xEDA 0xEDB, CodePointRange.mk 0xEE0 0xEFF, CodePointRange.mk 0xF48 0xF48,
  CodePointRange.mk 0xF6D 0xF70, CodePointRange.mk 0xF98 0xF98, CodePointRange.mk 0xFBD 0xFBD,
  CodePointRange.mk 0xFCD 0xFCD, CodePointRange.mk 0xFDB 0xFFF, CodePointRange.mk 0x10C6 0x10C6,
  CodePointRange.mk 0x10C8 0x10CC, CodePointRange.mk 0x10CE 0x10CF, CodePointRange.mk 0x1249 0x1249,
  CodePointRange.mk 0x124E 0x124F, CodePointRange.mk 0x1257 0x1257, CodePointRange.mk 0x1259 0x1259,
  CodePointRange.mk 0x125E 0x125F, CodePointRange.mk 0x1289 0x1289, CodePointRange.mk 0x128E 0x128F,
  CodePointRange.mk 0x12B1 0x12B1, CodePointRange.mk 0x12B6 0x12B7, CodePointRange.mk 0x12BF 0x12BF,
  CodePointRange.mk 0x12C1 0x12C1, CodePointRange.mk 0x12C6 0x12C7, CodePointRange.mk 0x12D7 0x12D7,
  CodePointRange.mk 0x1311 0x1311, CodePointRange.mk 0x1316 0x1317, CodePointRange.mk 0x135B 0x135C,
  CodePointRange.mk 0x137D 0x137F, CodePointRange.mk 0x139A 0x139F, CodePointRange.mk 0x13F6 0x13F7,
  CodePointRange.mk 0x13FE 0x13FF, CodePointRange.mk 0x1680 0x1680, CodePointRange.mk 0x169D 0x169F,
  CodePointRange.mk 0x16F9 0x16FF, CodePointRange.mk 0x1716 0x171E, CodePointRange.mk 0x1737 0x173F,
  CodePointRange.mk 0x1754 0x175F, CodePointRange.mk 0x176D 0x176D, CodePointRange.mk 0x1771 0x1771,
  CodePointRange.mk 0x1774 0x177F, CodePointRange.mk 0x17DE 0x17DF, CodePointRange.mk 0x17EA 0x17EF,
  CodePointRange.mk 0x17FA 0x17FF, CodePointRange.mk 0x180E 0x180E, CodePointRange.mk 0x181A 0x181F,
  CodePointRange.mk 0x1879 0x187F, CodePointRange.mk 0x18AB 0x18AF, CodePointRange.mk 0x18F6 0x18FF,
  CodePointRange.mk 0x191F 0x191F, CodePointRange.mk 0x192C 0x192F, CodePointRange.mk 0x193C 0x193F,
  CodePointRange.mk 0x1941 0x1943, CodePointRange.mk 0x196E 0x196F, CodePointRange.mk 0x1975 0x197F,
  CodePointRange.mk 0x19AC 0x19AF, CodePointRange.mk 0x19CA 0x19CF, CodePointRange.mk 0x19DB 0x19DD,
  CodePointRange.mk 0x1A1C 0x1A1D, CodePointRange.mk 0x1A5F 0x1A5F, CodePointRange.mk 0x1A7D 0x1A7E,
  CodePointRange.mk 0x1A8A 0x1A8F, CodePointRange.mk 0x1A9A 0x1A9F, CodePointRange.mk 0x1AAE 0x1AAF,
  CodePointRange.mk 0x1ACF 0x1AFF, CodePointRange.mk 0x1B4D 0x1B4F, CodePointRange.mk 0x1B7F 0x1B7F,
  CodePointRange.mk 0x1BF4 0x1BFB, CodePointRange.mk 0x1C38 0x1C3A, CodePointRange.mk 0x1C4A 0x1C4C,
  CodePointRange.mk 0x1C89 0x1C8F, CodePointRange.mk 0x1CBB 0x1CBC, CodePointRange.mk 0x1CC8 0x1CCF,
  CodePointRange.mk 0x1CFB 0x1CFF, CodePointRange.mk 0x1F16 0x1F17, CodePointRange.mk 0x1F1E 0x1F1F,
  CodePointRange.mk 0x1F46 0x1F47, CodePointRange.mk 0x1F4E 0x1F4F, CodePointRange.mk 0x1F58 0x1F58,
  CodePointRange.mk 0x1F5A 0x1F5A, CodePointRange.mk 0x1F5C 0x1F5C, CodePointRange.mk 0x1F5E 0x1F5E,
  CodePointRange.mk 0x1F7E 0x1F7F, CodePointRange.mk 0x1FB5 0x1FB5, CodePointRange.mk 0x1FC5 0x1FC5,
  CodePointRange.mk 0x1FD4 0x1FD5, CodePointRange.mk 0x1FDC 0x1FDC, CodePointRange.mk 0x1FF0 0x1FF1,
  CodePointRange.mk 0x1FF5 0x1FF5, CodePointRange.mk 0x1FFF 0x200F, CodePointRange.mk 0x2028 0x202F,
  CodePointRange.mk 0x205F 0x206F, CodePointRange.mk 0x2072 0x2073, CodePointRange.mk 0x208F 0x208F,
  CodePointRange.mk 0x209D 0x209F, CodePointRange.mk 0x20C1 0x20CF, CodePointRange.mk 0x20F1 0x20FF,
  CodePointRange.mk 0x218C 0x218F, CodePointRange.mk 0x2427 0x243F, CodePointRange.mk 0x244B 0x245F,
  CodePointRange.mk 0x2B74 0x2B75, CodePointRange.mk 0x2B96 0x2B96, CodePointRange.mk 0x2CF4 0x2CF8,
  CodePointRange.mk 0x2D26 0x2D26, CodePointRange.mk 0x2D28 0x2D2C, CodePointRange.mk 0x2D2E 0x2D2F,
  CodePointRange.mk 0x2D68 0x2D6E, CodePointRange.mk 0x2D71 0x2D7E, CodePointRange.mk 0x2D97 0x2D9F,
  CodePointRange.mk 0x2DA7 0x2DA7, CodePointRange.mk 0x2DAF 0x2DAF, CodePointRange.mk 0x2DB7 0x2DB7,
  CodePointRange.mk 0x2DBF 0x2DBF, CodePointRange.mk 0x2DC7 0x2DC7, CodePointRange.mk 0x2DCF 0x2DCF,
  CodePointRange.mk 0x2DD7 0x2DD7, CodePointRange.mk 0x2DDF 0x2DDF, CodePointRange.mk 0x2E5E 0x2E7F,
  CodePointRange.mk 0x2E9A 0x2E9A, CodePointRange.mk 0x2EF4 0x2EFF, CodePointRange.mk 0x2FD6 0x2FEF,
  CodePointRange.mk 0x2FFC 0x3000, CodePointRange.mk 0x3040 0x3040, CodePointRange.mk 0x3097 0x3098,
  CodePointRange.mk 0x3100 0x3104, CodePointRange.mk 0x3130 0x3130, CodePointRange.mk 0x318F 0x318F,
  CodePointRange.mk 0x31E4 0x31EF, CodePointRange.mk 0x321F 0x321F, CodePointRange.mk 0xA48D 0xA48F,
  CodePointRange.mk 0xA4C7 0xA4CF, CodePointRange.mk 0xA62C 0xA63F, CodePointRange.mk 0xA6F8 0xA6FF,
  CodePointRange.mk 0xA7CB 0xA7CF, CodePointRange.mk 0xA7D2 0xA7D2, CodePointRange.mk 0xA7D4 0xA7D4,
  CodePointRange.mk 0xA7DA 0xA7F1, CodePointRange.mk 0xA82D 0xA82F, CodePointRange.mk 0xA83A 0xA83F,
  CodePointRange.mk 0xA878 0xA87F, CodePointRange.mk 0xA8C6 0xA8CD, CodePointRange.mk 0xA8DA 0xA8DF,
  CodePointRange.mk 0xA954 0xA95E, CodePointRange.mk 0xA97D 0xA97F, CodePointRange.mk 0xA9CE 0xA9CE,
  CodePointRange.mk 0xA9DA 0xA9DD, CodePointRange.mk 0xA9FF 0xA9FF, CodePointRange.mk 0xAA37 0xAA3F,
  CodePointRange.mk 0xAA4E 0xAA4F, CodePointRange.mk 0xAA5A 0xAA5B, CodePointRange.mk 0xAAC3 0xAADA,
  CodePointRange.mk 0xAAF7 0xAB00, CodePointRange.mk 0xAB07 0xAB08, CodePointRange.mk 0xAB0F 0xAB10,
  CodePointRange.mk 0xAB17 0xAB1F, CodePointRange.mk 0xAB27 0xAB27, CodePointRange.mk 0xAB2F 0xAB2F,
  CodePointRange.mk 0xAB6C 0xAB6F, CodePointRange.mk 0xABEE 0xABEF, CodePointRange.mk 0xABFA 0xABFF,
  CodePointRange.mk 0xD7A4 0xD7AF, CodePointRange.mk 0xD7C7 0xD7CA, CodePointRange.mk 0xD7FC 0xF8FF,
  CodePointRange.mk 0xFA6E 0xFA6F, CodePointRange.mk 0xFADA 0xFAFF, CodePointRange.mk 0xFB07 0xFB12,
  CodePointRange.mk 0xFB18 0xFB1C, CodePointRange.mk 0xFB37 0xFB37, CodePointRange.mk 0xFB3D 0xFB3D,
  CodePointRange.mk 0xFB3F 0xFB3F, CodePointRange.mk 0xFB42 0xFB42, CodePointRange.mk 0xFB45 0xFB45,
  CodePointRange.mk 0xFBC3 0xFBD2, CodePointRange.mk 0xFD90 0xFD91, CodePointRange.mk 0xFDC8 0xFDCE,
  CodePointRange.mk 0xFDD0 0xFDEF, CodePointRange.mk 0xFE1A 0xFE1F, CodePointRange.mk 0xFE53 0xFE53,
  CodePointRange.mk 0xFE67 0xFE67, CodePointRange.mk 0xFE6C 0xFE6F, CodePointRange.mk 0xFE75 0xFE75,
  CodePointRange.mk 0xFEFD 0xFF00, CodePointRange.mk 0xFFBF 0xFFC1, CodePointRange.mk 0xFFC8 0xFFC9,
  CodePointRange.mk 0xFFD0 0xFFD1, CodePointRange.mk 0xFFD8 0xFFD9, CodePointRange.mk 0xFFDD 0xFFDF,
  CodePointRange.mk 0xFFE7 0xFFE7, CodePointRange.mk 0xFFEF 0xFFFB, CodePointRange.mk 0xFFFE 0xFFFF,
  CodePointRange.mk 0x1000C 0x1000C, CodePointRange.mk 0x10027 0x10027,
  CodePointRange.mk 0x1003B 0x1003B, CodePointRange.mk 0x1003E 0x1003E,
  CodePointRange.mk 0x1004E 0x1004F, CodePointRange.mk 0x1005E 0x1007F,
  CodePointRange.mk 0x100FB 0x100FF, CodePointRange.mk 0x10103 0x10106,
  CodePointRange.mk 0x10134 0x10136, CodePointRange.mk 0x1018F 0x1018F,
  CodePointRange.mk 0x1019D 0x1019F, CodePointRange.mk 0x101A1 0x101CF,
  CodePointRange.mk 0x101FE 0x1027F, CodePointRange.mk 0x1029D 0x1029F,
  CodePointRange.mk 0x102D1 0x102DF, CodePointRange.mk 0x102FC 0x102FF,
  CodePointRange.mk 0x10324 0x1032C, CodePointRange.mk 0x1034B 0x1034F,
  CodePointRange.mk 0x1037B 0x1037F, CodePointRange.mk 0x1039E 0x1039E,
  CodePointRange.mk 0x103C4 0x103C7, CodePointRange.mk 0x103D6 0x103FF,
  CodePointRange.mk 0x1049E 0x1049F, CodePointRange.mk 0x104AA 0x104AF,
  CodePointRange.mk 0x104D4 0x104D7, CodePointRange.mk 0x104FC 0x104FF,
  CodePointRange.mk 0x10528 0x1052F, CodePointRange.mk 0x10564 0x1056E,
  CodePointRange.mk 0x1057B 0x1057B, CodePointRange.mk 0x1058B 0x1058B,
  CodePointRange.mk 0x10593 0x10593, CodePointRange.mk 0x10596 0x10596,
  CodePointRange.mk 0x105A2 0x105A2, CodePointRange.mk 0x105B2 0x105B2,
  CodePointRange.mk 0x105BA 0x105BA, CodePointRange.mk 0x105BD 0x105FF,
  CodePointRange.mk 0x10737 0x1073F, CodePointRange.mk 0x10756 0x1075F,
  CodePointRange.mk 0x10768 0x1077F, CodePointRange.mk 0x10786 0x10786,
  CodePointRange.mk 0x107B1 0x107B1, CodePointRange.mk 0x107BB 0x107FF,
  CodePointRange.mk 0x10806 0x10807, CodePointRange.mk 0x10809 0x10809,
  CodePointRange.mk 0x10836 0x10836, CodePointRange.mk 0x10839 0x1083B,
  CodePointRange.mk 0x1083D 0x1083E, CodePointRange.mk 0x10856 0x10856,
  CodePointRange.mk 0x1089F 0x108A6, CodePointRange.mk 0x108B0 0x108DF,
  CodePointRange.mk 0x108F3 0x108F3, CodePointRange.mk 0x108F6 0x108FA,
  CodePointRange.mk 0x1091C 0x1091E, CodePointRange.mk 0x1093A 0x1093E,
  CodePointRange.mk 0x10940 0x1097F, CodePointRange.mk 0x109B8 0x109BB,
  CodePointRange.mk 0x109D0 0x109D1, CodePointRange.mk 0x10A04 0x10A04,
  CodePointRange.mk 0x10A07 0x10A0B, CodePointRange.mk 0x10A14 0x10A14,
  CodePointRange.mk 0x10A18 0x10A18, CodePointRange.mk 0x10A36 0x10A37,
  CodePointRange.mk 0x10A3B 0x10A3E, CodePointRange.mk 0x10A49 0x10A4F,
  CodePointRange.mk 0x10A59 0x10A5F, CodePointRange.mk 0x10AA0 0x10ABF,
  CodePointRange.mk 0x10AE7 0x10AEA, CodePointRange.mk 0x10AF7 0x10AFF,
  CodePointRange.mk 0x10B36 0x10B38, CodePointRange.mk 0x10B56 0x10B57,
  CodePointRange.mk 0x10B73 0x10B77, CodePointRange.mk 0x10B92 0x10B98,
  CodePointRange.mk 0x10B9D 0x10BA8, CodePointRange.mk 0x10BB0 0x10BFF,
  CodePointRange.mk 0x10C49 0x10C7F, CodePointRange.mk 0x10CB3 0x10CBF,
  CodePointRange.mk 0x10CF3 0x10CF9, CodePointRange.mk 0x10D28 0x10D2F,
  CodePointRange.mk 0x10D3A 0x10E5F, CodePointRange.mk 0x10E7F 0x10E7F,
  CodePointRange.mk 0x10EAA 0x10EAA, CodePointRange.mk 0x10EAE 0x10EAF,
  CodePointRange.mk 0x10EB2 0x10EFF, CodePointRange.mk 0x10F28 0x10F2F,
  CodePointRange.mk 0x10F5A 0x10F6F, CodePointRange.mk 0x10F8A 0x10FAF,
  CodePointRange.mk 0x10FCC 0x10FDF, CodePointRange.mk 0x10FF7 0x10FFF,
  CodePointRange.mk 0x1104E 0x11051, CodePointRange.mk 0x11076 0x1107E,
  CodePointRange.mk 0x110BD 0x110BD, CodePointRange.mk 0x110C3 0x110CF,
  CodePointRange.mk 0x110E9 0x110EF, CodePointRange.mk 0x110FA 0x110FF,
  CodePointRange.mk 0x11135 0x11135, CodePointRange.mk 0x11148 0x1114F,
  CodePointRange.mk 0x11177 0x1117F, CodePointRange.mk 0x111E0 0x111E0,
  CodePointRange.mk 0x111F5 0x111FF, CodePointRange.mk 0x11212 0x11212,
  CodePointRange.mk 0x1123F 0x1127F, CodePointRange.mk 0x11287 0x11287,
  CodePointRange.mk 0x11289 0x11289, CodePointRange.mk 0x1128E 0x1128E,
  CodePointRange.mk 0x1129E 0x1129E, CodePointRange.mk 0x112AA 0x112AF,
  CodePointRange.mk 0x112EB 0x112EF, CodePointRange.mk 0x112FA 0x112FF,
  CodePointRange.mk 0x11304 0x11304, CodePointRange.mk 0x1130D 0x1130E,
  CodePointRange.mk 0x11311 0x11312, CodePointRange.mk 0x11329 0x11329,
  CodePointRange.mk 0x11331 0x11331, CodePointRange.mk 0x11334 0x11334,
  CodePointRange.mk 0x1133A 0x1133A, CodePointRange.mk 0x11345 0x11346,
  CodePointRange.mk 0x11349 0x1134A, CodePointRange.mk 0x1134E 0x1134F,
  CodePointRange.mk 0x11351 0x11356, CodePointRange.mk 0x11358 0x1135C,
  CodePointRange.mk 0x11364 0x11365, CodePointRange.mk 0x1136D 0x1136F,
  CodePointRange.mk 0x11375 0x113FF, CodePointRange.mk 0x1145C 0x1145C,
  CodePointRange.mk 0x11462 0x1147F, CodePointRange.mk 0x114C8 0x114CF,
  CodePointRange.mk 0x114DA 0x1157F, CodePointRange.mk 0x115B6 0x115B7,
  CodePointRange.mk 0x115DE 0x115FF, CodePointRange.mk 0x11645 0x1164F,
  CodePointRange.mk 0x1165A 0x1165F, CodePointRange.mk 0x1166D 0x1167F,
  CodePointRange.mk 0x116BA 0x116BF, CodePointRange.mk 0x116CA 0x116FF,
  CodePointRange.mk 0x1171B 0x1171C, CodePointRange.mk 0x1172C 0x1172F,
  CodePointRange.mk 0x11747 0x117FF, CodePointRange.mk 0x1183C 0x1189F,
  CodePointRange.mk 0x118F3 0x118FE, CodePointRange.mk 0x11907 0x11908,
  CodePointRange.mk 0x1190A 0x1190B, CodePointRange.mk 0x11914 0x11914,
  CodePointRange.mk 0x11917 0x11917, CodePointRange.mk 0x11936 0x11936,
  CodePointRange.mk 0x11939 0x1193A, CodePointRange.mk 0x11947 0x1194F,
  CodePointRange.mk 0x1195A 0x1199F, CodePointRange.mk 0x119A8 0x119A9,
  CodePointRange.mk 0x119D8 0x119D9, CodePointRange.mk 0x119E5 0x119FF,
  CodePointRange.mk 0x11A48 0x11A4F, CodePointRange.mk 0x11AA3 0x11AAF,
  CodePointRange.mk 0x11AF9 0x11BFF, CodePointRange.mk 0x11C09 0x11C09,
  CodePointRange.mk 0x11C37 0x11C37, CodePointRange.mk 0x11C46 0x11C4F,
  CodePointRange.mk 0x11C6D 0x11C6F, CodePointRange.mk 0x11C90 0x11C91,
  CodePointRange.mk 0x11CA8 0x11CA8, CodePointRange.mk 0x11CB7 0x11CFF,
  CodePointRange.mk 0x11D07 0x11D07, CodePointRange.mk 0x11D0A 0x11D0A,
  CodePointRange.mk 0x11D37 0x11D39, CodePointRange.mk 0x11D3B 0x11D3B,
  CodePointRange.mk 0x11D3E 0x11D3E, CodePointRange.mk 0x11D48 0x11D4F,
  CodePointRange.mk 0x11D5A 0x11D5F, CodePointRange.mk 0x11D66 0x11D66,
  CodePointRange.mk 0x11D69 0x11D69, CodePointRange.mk 0x11D8F 0x11D8F,
  CodePointRange.mk 0x11D92 0x11D92, CodePointRange.mk 0x11D99 0x11D9F,
  CodePointRange.mk 0x11DAA 0x11EDF, CodePointRange.mk 0x11EF9 0x11FAF,
  CodePointRange.mk 0x11FB1 0x11FBF, CodePointRange.mk 0x11FF2 0x11FFE,
  CodePointRange.mk 0x1239A 0x123FF, CodePointRange.mk 0x1246F 0x1246F,
  CodePointRange.mk 0x12475 0x1247F, CodePointRange.mk 0x12544 0x12F8F,
  CodePointRange.mk 0x12FF3 0x12FFF, CodePointRange.mk 0x1342F 0x143FF,
  CodePointRange.mk 0x14647 0x167FF, CodePointRange.mk 0x16A39 0x16A3F,
  CodePointRange.mk 0x16A5F 0x16A5F, CodePointRange.mk 0x16A6A 0x16A6D,
  CodePointRange.mk 0x16ABF 0x16ABF, CodePointRange.mk 0x16ACA 0x16ACF,
  CodePointRange.mk 0x16AEE 0x16AEF, CodePointRange.mk 0x16AF6 0x16AFF,
  CodePointRange.mk 0x16B46 0x16B4F, CodePointRange.mk 0x16B5A 0x16B5A,
  CodePointRange.mk 0x16B62 0x16B62, CodePointRange.mk 0x16B78 0x16B7C,
  CodePointRange.mk 0x16B90 0x16E3F, CodePointRange.mk 0x16E9B 0x16EFF,
  CodePointRange.mk 0x16F4B 0x16F4E, CodePointRange.mk 0x16F88 0x16F8E,
  CodePointRange.mk 0x16FA0 0x16FDF, CodePointRange.mk 0x16FE5 0x16FEF,
  CodePointRange.mk 0x16FF2 0x16FFF, CodePointRange.mk 0x187F8 0x187FF,
  CodePointRange.mk 0x18CD6 0x18CFF, CodePointRange.mk 0x18D09 0x1AFEF,
  CodePointRange.mk 0x1AFF4 0x1AFF4, CodePointRange.mk 0x1AFFC 0x1AFFC,
  CodePointRange.mk 0x1AFFF 0x1AFFF, CodePointRange.mk 0x1B123 0x1B14F,
  CodePointRange.mk 0x1B153 0x1B163, CodePointRange.mk 0x1B168 0x1B16F,
  CodePointRange.mk 0x1B2FC 0x1BBFF, CodePointRange.mk 0x1BC6B 0x1BC6F,
  CodePointRange.mk 0x1BC7D 0x1BC7F, CodePointRange.mk 0x1BC89 0x1BC8F,
  CodePointRange.mk 0x1BC9A 0x1BC9B, CodePointRange.mk 0x1BCA0 0x1CEFF,
  CodePointRange.mk 0x1CF2E 0x1CF2F, CodePointRange.mk 0x1CF47 0x1CF4F,
  CodePointRange.mk 0x1CFC4 0x1CFFF, CodePointRange.mk 0x1D0F6 0x1D0FF,
  CodePointRange.mk 0x1D127 0x1D128, CodePointRange.mk 0x1D173 0x1D17A,
  CodePointRange.mk 0x1D1EB 0x1D1FF, CodePointRange.mk 0x1D246 0x1D2DF,
  CodePointRange.mk 0x1D2F4 0x1D2FF, CodePointRange.mk 0x1D357 0x1D35F,
  CodePointRange.mk 0x1D379 0x1D3FF, CodePointRange.mk 0x1D455 0x1D455,
  CodePointRange.mk 0x1D49D 0x1D49D, CodePointRange.mk 0x1D4A0 0x1D4A1,
  CodePointRange.mk 0x1D4A3 0x1D4A4, CodePointRange.mk 0x1D4A7 0x1D4A8,
  CodePointRange.mk 0x1D4AD 0x1D4AD, CodePointRange.mk 0x1D4BA 0x1D4BA,
  CodePointRange.mk 0x1D4BC 0x1D4BC, CodePointRange.mk 0x1D4C4 0x1D4C4,
  CodePointRange.mk 0x1D506 0x1D506, CodePointRange.mk 0x1D50B 0x1D50C,
  CodePointRange.mk 0x1D515 0x1D515, CodePointRange.mk 0x1D51D 0x1D51D,
  CodePointRange.mk 0x1D53A 0x1D53A, CodePointRange.mk 0x1D53F 0x1D53F,
  CodePointRange.mk 0x1D545 0x1D545, CodePointRange.mk 0x1D547 0x1D549,
  CodePointRange.mk 0x1D551 0x1D551, CodePointRange.mk 0x1D6A6 0x1D6A7,
  CodePointRange.mk 0x1D7CC 0x1D7CD, CodePointRange.mk 0x1DA8C 0x1DA9A,
  CodePointRange.mk 0x1DAA0 0x1DAA0, CodePointRange.mk 0x1DAB0 0x1DEFF,
  CodePointRange.mk 0x1DF1F 0x1DFFF, CodePointRange.mk 0x1E007 0x1E007,
  CodePointRange.mk 0x1E019 0x1E01A, CodePointRange.mk 0x1E022 0x1E022,
  CodePointRange.mk 0x1E025 0x1E025, CodePointRange.mk 0x1E02B 0x1E0FF,
  CodePointRange.mk 0x1E12D 0x1E12F, CodePointRange.mk 0x1E13E 0x1E13F,
  CodePointRange.mk 0x1E14A 0x1E14D, CodePointRange.mk 0x1E150 0x1E28F,
  CodePointRange.mk 0x1E2AF 0x1E2BF, CodePointRange.mk 0x1E2FA 0x1E2FE,
  CodePointRange.mk 0x1E300 0x1E7DF, CodePointRange.mk 0x1E7E7 0x1E7E7,
  CodePointRange.mk 0x1E7EC 0x1E7EC, CodePointRange.mk 0x1E7EF 0x1E7EF,
  CodePointRange.mk 0x1E7FF 0x1E7FF, CodePointRange.mk 0x1E8C5 0x1E8C6,
  CodePointRange.mk 0x1E8D7 0x1E8FF, CodePointRange.mk 0x1E94C 0x1E94F,
  CodePointRange.mk 0x1E95A 0x1E95D, CodePointRange.mk 0x1E960 0x1EC70,
  CodePointRange.mk 0x1ECB5 0x1ED00, CodePointRange.mk 0x1ED3E 0x1EDFF,
  CodePointRange.mk 0x1EE04 0x1EE04, CodePointRange.mk 0x1EE20 0x1EE20,
  CodePointRange.mk 0x1EE23 0x1EE23, CodePointRange.mk 0x1EE25 0x1EE26,
  CodePointRange.mk 0x1EE28 0x1EE28, CodePointRange.mk 0x1EE33 0x1EE33,
  CodePointRange.mk 0x1EE38 0x1EE38, CodePointRange.mk 0x1EE3A 0x1EE3A,
  CodePointRange.mk 0x1EE3C 0x1EE41, CodePointRange.mk 0x1EE43 0x1EE46,
  CodePointRange.mk 0x1EE48 0x1EE48, CodePointRange.mk 0x1EE4A 0x1EE4A,
  CodePointRange.mk 0x1EE4C 0x1EE4C, CodePointRange.mk 0x1EE50 0x1EE50,
  CodePointRange.mk 0x1EE53 0x1EE53, CodePointRange.mk 0x1EE55 0x1EE56,
  CodePointRange.mk 0x1EE58 0x1EE58, CodePointRange.mk 0x1EE5A 0x1EE5A,
  CodePointRange.mk 0x1EE5C 0x1EE5C, CodePointRange.mk 0x1EE5E 0x1EE5E,
  CodePointRange.mk 0x1EE60 0x1EE60, CodePointRange.mk 0x1EE63 0x1EE63,
  CodePointRange.mk 0x1EE65 0x1EE66, CodePointRange.mk 0x1EE6B 0x1EE6B,
  CodePointRange.mk 0x1EE73 0x1EE73, CodePointRange.mk 0x1EE78 0x1EE78,
  CodePointRange.mk 0x1EE7D 0x1EE7D, CodePointRange.mk 0x1EE7F 0x1EE7F,
  CodePointRange.mk 0x1EE8A 0x1EE8A, CodePointRange.mk 0x1EE9C 0x1EEA0,
  CodePointRange.mk 0x1EEA4 0x1EEA4, CodePointRange.mk 0x1EEAA 0x1EEAA,
  CodePointRange.mk 0x1EEBC 0x1EEEF, CodePointRange.mk 0x1EEF2 0x1EFFF,
  CodePointRange.mk 0x1F02C 0x1F02F, CodePointRange.mk 0x1F094 0x1F09F,
  CodePointRange.mk 0x1F0AF 0x1F0B0, CodePointRange.mk 0x1F0C0 0x1F0C0,
  CodePointRange.mk 0x1F0D0 0x1F0D0, CodePointRange.mk 0x1F0F6 0x1F0FF,
  CodePointRange.mk 0x1F1AE 0x1F1E5, CodePointRange.mk 0x1F203 0x1F20F,
  CodePointRange.mk 0x1F23C 0x1F23F, CodePointRange.mk 0x1F249 0x1F24F,
  CodePointRange.mk 0x1F252 0x1F25F, CodePointRange.mk 0x1F266 0x1F2FF,
  CodePointRange.mk 0x1F6D8 0x1F6DC, CodePointRange.mk 0x1F6ED 0x1F6EF,
  CodePointRange.mk 0x1F6FD 0x1F6FF, CodePointRange.mk 0x1F774 0x1F77F,
  CodePointRange.mk 0x1F7D9 0x1F7DF, CodePointRange.mk 0x1F7EC 0x1F7EF,
  CodePointRange.mk 0x1F7F1 0x1F7FF, CodePointRange.mk 0x1F80C 0x1F80F,
  CodePointRange.mk 0x1F848 0x1F84F, CodePointRange.mk 0x1F85A 0x1F85F,
  CodePointRange.mk 0x1F888 0x1F88F, CodePointRange.mk 0x1F8AE 0x1F8AF,
  CodePointRange.mk 0x1F8B2 0x1F8FF, CodePointRange.mk 0x1FA54 0x1FA5F,
  CodePointRange.mk 0x1FA6E 0x1FA6F, CodePointRange.mk 0x1FA75 0x1FA77,
  CodePointRange.mk 0x1FA7D 0x1FA7F, CodePointRange.mk 0x1FA87 0x1FA8F,
  CodePointRange.mk 0x1FAAD 0x1FAAF, CodePointRange.mk 0x1FABB 0x1FABF,
  CodePointRange.mk 0x1FAC6 0x1FACF, CodePointRange.mk 0x1FADA 0x1FADF,
  CodePointRange.mk 0x1FAE8 0x1FAEF, CodePointRange.mk 0x1FAF7 0x1FAFF,
  CodePointRange.mk 0x1FB93 0x1FB93, CodePointRange.mk 0x1FBCB 0x1FBEF,
  CodePointRange.mk 0x1FBFA 0x1FFFF, CodePointRange.mk 0x2A6E0 0x2A6FF,
  CodePointRange.mk 0x2B739 0x2B73F, CodePointRange.mk 0x2B81E 0x2B81F,
  CodePointRange.mk 0x2CEA2 0x2CEAF, CodePointRange.mk 0x2EBE1 0x2F7FF,
  CodePointRange.mk 0x2FA1E 0x2FFFF, CodePointRange.mk 0x3134B 0xE00FF,
  CodePointRange.mk 0xE01F0 0x10FFFF]

/-- `Py_UNICODE_ISPRINTABLE(ch)` for a character from `0x7F` on. -/
def isPrintable (c : Char) : Bool :=
  !nonPrintable.any fun range => range.first ≤ c.toNat && c.toNat ≤ range.last

/-- The last `width` hexadecimal digits of `n`, in lower case as `Py_hexdigits` has them. -/
def hexDigits (width n : Nat) : List Char :=
  (List.range width).reverse.map fun i => Nat.digitChar (n / 16 ^ i % 16)

/-- A character of a string as `repr` writes it between `quote`s (`unicode_repr` of
`Objects/unicodeobject.c`): the quote and the backslash escaped, tab, newline and carriage
return as `\t`, `\n` and `\r`, other characters that are not printable as hexadecimal
escapes. -/
def reprChar (quote c : Char) : List Char :=
  if c = quote ∨ c = '\\' then ['\\', c]
  else if c = '\t' then ['\\', 't']
  else if c = '\n' then ['\\', 'n']
  else if c = '\r' then ['\\', 'r']
  else if c.toNat < 0x20 ∨ c.toNat = 0x7F then '\\' :: 'x' :: hexDigits 2 c.toNat
  else if c.toNat < 0x7F ∨ isPrintable c then [c]
  else if c.toNat ≤ 0xFF then '\\' :: 'x' :: hexDigits 2 c.toNat
  else if c.toNat ≤ 0xFFFF then '\\' :: 'u' :: hexDigits 4 c.toNat
  else '\\' :: 'U' :: hexDigits 8 c.toNat

/-- `repr(s)` for a string: between single quotes, or between double quotes when it holds a
single quote and no double quote. -/
def strRepr (s : String) : String :=
  let quote := if '\x27' ∈ s.toList ∧ '\x22' ∉ s.toList then '\x22' else '\x27'
  String.mk (quote :: (s.toList.map (reprChar quote)).flatten ++ [quote])

/-- A configuration value as Python holds it after parsing a JSON or YAML file. -/
inductive Value where
  | null
  | bool (value : Bool)
  | int (value : Int)
  | float (repr : String)
  | str (value : String)
  | list (items : List Value)
  | dict (fields : List (String × Value))
  deriving Repr, Inhabited

namespace Value

mutual

/-- Structural equality of values, decided field by field. -/
def decEq : (a b : Value) → Decidable (a = b)
  | .null, .null => isTrue rfl
  | .bool a, .bool b => decidable_of_iff (a = b) (by simp)
  | .int a, .int b => decidable_of_iff (a = b) (by simp)
  | .float a, .float b => decidable_of_iff (a = b) (by simp)
  | .str a, .str b => decidable_of_iff (a = b) (by simp)
  | .list a, .list b =>
      match decEqItems a b with
      | isTrue h => isTrue (h ▸ rfl)
      | isFalse h => isFalse fun e => h (list.inj e)
  | .dict a, .dict b =>
      match decEqFields a b with
      | isTrue h => isTrue (h ▸ rfl)
      | isFalse h => isFalse fun e => h (dict.inj e)
  | .null, .bool _ | .null, .int _ | .null, .float _ | .null, .str _ | .null, .list _
  | .null, .dict _ | .bool _, .null | .bool _, .int _ | .bool _, .float _ | .bool _, .str _
  | .bool _, .list _ | .bool _, .dict _ | .int _, .null | .int _, .bool _ | .int _, .float _
  | .int _, .str _ | .int _, .list _ | .int _, .dict _ | .float _, .null | .float _, .bool _
  | .float _, .int _ | .float _, .str _ | .float _, .list _ | .float _, .dict _
  | .str _, .null | .str _, .bool _ | .str _, .int _ | .str _, .float _ | .str _, .list _
  | .str _, .dict _ | .list _, .null | .list _, .bool _ | .list _, .int _ | .list _, .float _
  | .list _, .str _ | .list _, .dict _ | .dict _, .null | .dict _, .bool _ | .dict _, .int _
  | .dict _, .float _ | .dict _, .str _ | .dict _, .list _ => isFalse nofun

/-- Equality of two lists of values, element by element. -/
def decEqItems : (a b : List Value) → Decidable (a = b)
  | [], [] => isTrue rfl
  | x :: xs, y :: ys =>
      match decEq x y, decEqItems xs ys with
      | isTrue h, isTrue h' => isTrue (h ▸ h' ▸ rfl)
      | isFalse h, _ => isFalse fun e => h (List.cons.inj e).1
      | _, isFalse h => isFalse fun e => h (List.cons.inj e).2
  | [], _ :: _ | _ :: _, [] => isFalse nofun

/-- Equality of two lists of dict items, item by item. -/
def decEqFields : (a b : List (String × Value)) → Decidable (a = b)
  | [], [] => isTrue rfl
  | (k, x) :: xs, (k', y) :: ys =>
      if hk : k = k' then
        match decEq x y, decEqFields xs ys with
        | isTrue h, isTrue h' => isTrue (hk ▸ h ▸ h' ▸ rfl)
        | isFalse h, _ => isFalse fun e => h (Prod.mk.inj (List.cons.inj e).1).2
        | _, isFalse h => isFalse fun e => h (List.cons.inj e).2
      else isFalse fun e => hk (Prod.mk.inj (List.cons.inj e).1).1
  | [], _ :: _ | _ :: _, [] => isFalse nofun

end

instance : DecidableEq Value := decEq

/-- Python's `isinstance(value, dict)`. -/
def isDict : Value → Bool
  | .dict _ => true
  | _ => false

theorem isDict_iff {v : Value} : v.isDict = true ↔ ∃ fields, v = .dict fields := by
  cases v <;> simp [isDict]

/-- Python's `isinstance(value, (float, int))`; `bool` is a subclass of `int`. -/
def isFloatOrInt : Value → Bool
  | .bool _ | .int _ | .float _ => true
  | _ => false

/-- Python's truth value of a value, as `if value:` tests it. -/
def truthy : Value → Bool
  | .null => false
  | .bool value => value
  | .int value => value != 0
  | .float repr => repr != "0.0" && repr != "-0.0"
  | .str value => !value.isEmpty
  | .list items => !items.isEmpty
  | .dict fields => !fields.isEmpty

mutual

/-- `repr(value)`. -/
def pyRepr : Value → String
  | .null => "None"
  | .bool value => if value then "True" else "False"
  | .int value => toString value
  | .float repr => repr
  | .str value => strRepr value
  | .list items => "[" ++ pyReprItems items ++ "]"
  | .dict fields => "\x7b" ++ pyReprFields fields ++ "\x7d"

/-- The elements of a list, as `repr` joins them. -/
def pyReprItems : List Value → String
  | [] => ""
  | [v] => v.pyRepr
  | v :: vs => v.pyRepr ++ ", " ++ pyReprItems vs

/-- The items of a dict, as `repr` joins them. -/
def pyReprFields : List (String × Value) → String
  | [] => ""
  | [(key, v)] => strRepr key ++ ": " ++ v.pyRepr
  | (key, v) :: fs => strRepr key ++ ": " ++ v.pyRepr ++ ", " ++ pyReprFields fs

end

/-- `str(value)`, which an f-string prints: a string as it is, anything else as its
`repr`. -/
def pyStr : Value → String
  | .str value => value
  | value => value.pyRepr

end Value

/-- An f-string prints a string as it is. -/
theorem toString_string (s : String) : toString s = s := rfl

/-- `s.startswith(start)`. -/
def startswith (s start : String) : Bool := start.toList.isPrefixOf s.toList

/-- Python's order on `str`: lexicographic on code points. -/
def KeyLt (a b : String) : Prop := a.toList < b.toList

instance : DecidableRel KeyLt := fun a b => inferInstanceAs (Decidable (a.toList < b.toList))

theorem keyLt_irrefl (a : String) : ¬KeyLt a a := lt_irrefl a.toList

theorem keyLt_trans {a b c : String} (hab : KeyLt a b) (hbc : KeyLt b c) : KeyLt a c :=
  lt_trans hab hbc

theorem keyLt_asymm {a b : String} (hab : KeyLt a b) : ¬KeyLt b a := lt_asymm hab

theorem keyLt_trichotomy (a b : String) : KeyLt a b ∨ a = b ∨ KeyLt b a := by
  rcases lt_trichotomy a.toList b.toList with h | h | h
  · exact .inl h
  · exact .inr (.inl (String.ext h))
  · exact .inr (.inr h)

/-- The items of a dict, in strictly increasing key order. -/
def KeysSorted (fields : List (String × Value)) : Prop :=
  fields.Pairwise fun a b => KeyLt a.1 b.1

instance (fields : List (String × Value)) : Decidable (KeysSorted fields) :=
  inferInstanceAs (Decidable (List.Pairwise _ fields))

section Items

variable {key k : String} {v : Value} {rest fields other : List (String × Value)}

@[simp]
theorem lookup_cons_eq :
    ((k, v) :: rest).lookup key = if key = k then some v else rest.lookup key := by
  rw [List.lookup_cons]
  by_cases h : key = k
  · simp [h]
  · have hb : (key == k) = false := by simpa using h
    simp [h, hb]

theorem keysSorted_cons_iff :
    KeysSorted ((k, v) :: rest) ↔ (∀ p ∈ rest, KeyLt k p.1) ∧ KeysSorted rest :=
  List.pairwise_cons

theorem lookup_eq_none_of_forall_lt (h : ∀ p ∈ fields, KeyLt key p.1) :
    fields.lookup key = none := by
  induction fields with
  | nil => rfl
  | cons p ps ih =>
      obtain ⟨pk, pv⟩ := p
      have hne : key ≠ pk := fun e => keyLt_irrefl key (e ▸ h _ (.head _))
      simp [hne, ih fun q hq => h q (.tail _ hq)]

theorem KeysSorted.lookup_head (hs : KeysSorted ((k, v) :: rest)) : rest.lookup k = none :=
  lookup_eq_none_of_forall_lt (keysSorted_cons_iff.mp hs).1

theorem mem_of_lookup_eq_some (h : fields.lookup key = some v) : (key, v) ∈ fields := by
  induction fields with
  | nil => simp at h
  | cons p ps ih =>
      obtain ⟨pk, pv⟩ := p
      by_cases hk : key = pk
      · subst hk
        simp only [lookup_cons_eq, if_true, Option.some.injEq] at h
        exact h ▸ .head _
      · simp only [lookup_cons_eq, hk, if_false] at h
        exact .tail _ (ih h)

theorem lookup_isSome_of_mem {entry : String × Value} (h : entry ∈ fields) :
    (fields.lookup entry.1).isSome := by
  induction fields with
  | nil => simp at h
  | cons p ps ih =>
      obtain ⟨pk, pv⟩ := p
      by_cases hk : entry.1 = pk
      · simp [hk]
      · rcases List.mem_cons.mp h with e | e
        · exact absurd (congrArg Prod.fst e) hk
        · simpa [hk] using ih e

theorem KeysSorted.lookup_of_mem (hs : KeysSorted fields) (h : (key, v) ∈ fields) :
    fields.lookup key = some v := by
  induction fields with
  | nil => simp at h
  | cons p ps ih =>
      obtain ⟨pk, pv⟩ := p
      have hp := keysSorted_cons_iff.mp hs
      rcases List.mem_cons.mp h with e | e
      · simp [Prod.mk.inj_iff.mp e]
      · have hne : key ≠ pk := fun he => keyLt_irrefl pk (he ▸ hp.1 _ e)
        simpa [hne] using ih hp.2 e

/-- Two dicts in canonical order with the same lookups are the same items. -/
theorem KeysSorted.ext (hs : KeysSorted fields) (ho : KeysSorted other)
    (h : ∀ key, fields.lookup key = other.lookup key) : fields = other := by
  induction fields generalizing other with
  | nil =>
      cases other with
      | nil => rfl
      | cons q qs => simpa using (h q.1).symm
  | cons p ps ih =>
      cases other with
      | nil => simpa using h p.1
      | cons q qs =>
          obtain ⟨pk, pv⟩ := p
          obtain ⟨qk, qv⟩ := q
          have hp := keysSorted_cons_iff.mp hs
          have hq := keysSorted_cons_iff.mp ho
          have hpq : pk = qk := by
            have inQ : (pk, pv) ∈ (qk, qv) :: qs := mem_of_lookup_eq_some (by rw [← h pk]; simp)
            have inP : (qk, qv) ∈ (pk, pv) :: ps := mem_of_lookup_eq_some (by rw [h qk]; simp)
            rcases List.mem_cons.mp inQ with e | e
            · exact congrArg Prod.fst e
            rcases List.mem_cons.mp inP with e' | e'
            · exact (congrArg Prod.fst e').symm
            exact absurd (hp.1 _ e') (keyLt_asymm (hq.1 _ e))
          subst hpq
          have hv : pv = qv := by simpa using h pk
          have tails : ∀ key, ps.lookup key = qs.lookup key := by
            intro key
            by_cases hk : key = pk
            · rw [hk, hs.lookup_head, ho.lookup_head]
            · simpa [hk] using h key
          rw [hv, ih hp.2 hq.2 tails]

end Items

namespace Value

mutual

/-- Every dict inside the value lists its items in strictly increasing key order. -/
def isCanonical : Value → Bool
  | .list items => itemsCanonical items
  | .dict fields => decide (KeysSorted fields) && fieldsCanonical fields
  | _ => true

/-- Every element of the list is canonical. -/
def itemsCanonical : List Value → Bool
  | [] => true
  | v :: vs => v.isCanonical && itemsCanonical vs

/-- Every value of the dict items is canonical. -/
def fieldsCanonical : List (String × Value) → Bool
  | [] => true
  | (_, v) :: fs => v.isCanonical && fieldsCanonical fs

end

/-- The value is the model of a Python value: its dicts are in canonical order. -/
def Canonical (v : Value) : Prop := v.isCanonical = true

instance (v : Value) : Decidable v.Canonical := inferInstanceAs (Decidable (_ = true))

theorem itemsCanonical_iff (items : List Value) :
    itemsCanonical items = true ↔ ∀ v ∈ items, v.Canonical := by
  induction items with
  | nil => simp [itemsCanonical]
  | cons v vs ih => simp [itemsCanonical, ih, Canonical]

theorem fieldsCanonical_iff (fields : List (String × Value)) :
    fieldsCanonical fields = true ↔ ∀ p ∈ fields, p.2.Canonical := by
  induction fields with
  | nil => simp [fieldsCanonical]
  | cons p fs ih => simp [fieldsCanonical, ih, Canonical]

@[simp]
theorem canonical_dict (fields : List (String × Value)) :
    (dict fields).Canonical ↔ KeysSorted fields ∧ ∀ p ∈ fields, p.2.Canonical := by
  simp [Canonical, isCanonical, fieldsCanonical_iff]

@[simp]
theorem canonical_list (items : List Value) :
    (list items).Canonical ↔ ∀ v ∈ items, v.Canonical := by
  simp [Canonical, isCanonical, itemsCanonical_iff]

end Value

/-- A parsed configuration document. Its dicts are kept in increasing key order, which stands
for every order in which the file may list their keys. -/
structure Document where
  /-- The parsed value. -/
  value : Value
  /-- Every dict of `value` is in canonical key order. -/
  canonical : value.Canonical

instance instDecidableEqExcept {ε α : Type} [DecidableEq ε] [DecidableEq α] :
    DecidableEq (Except ε α)
  | .ok a, .ok b => decidable_of_iff (a = b) (by simp)
  | .error a, .error b => decidable_of_iff (a = b) (by simp)
  | .ok _, .error _ | .error _, .ok _ => isFalse nofun

@[simp]
theorem ok_bind {ε α β : Type} (a : α) (f : α → Except ε β) : (Except.ok a >>= f) = f a := rfl

@[simp]
theorem error_bind {ε α β : Type} (e : ε) (f : α → Except ε β) :
    (Except.error e >>= f) = Except.error e := rfl

theorem bind_eq_ok {ε α β : Type} {x : Except ε α} {f : α → Except ε β} {b : β} :
    (x >>= f) = .ok b ↔ ∃ a, x = .ok a ∧ f a = .ok b := by
  cases x <;> simp

theorem map_eq_ok {ε α β : Type} {x : Except ε α} {f : α → β} {b : β} :
    f <$> x = .ok b ↔ ∃ a, x = .ok a ∧ f a = b := by
  cases x <;> simp [Functor.map, Except.map]

/-- The exceptions raised by the modelled code, by class. -/
inductive PyError where
  /-- `PaastaNotConfiguredError`. -/
  | paastaNotConfigured (message : String)
  /-- `NoConfigurationForServiceError`. -/
  | noConfigurationForService (message : String)
  /-- `InvalidJobNameError`. -/
  | invalidJobName (message : String)
  /-- `DuplicateKeyError` of the deep merge. -/
  | duplicateKey (message : String)
  /-- `AttributeError`: a method such as `.get` called on a value that lacks it. -/
  | attributeError (name : String)
  /-- `TypeError`: an operation applied to a value of the wrong type. -/
  | typeError (message : String)
  /-- `KeyError`: a dict subscripted with a key it lacks. -/
  | keyError (key : String)
  /-- `IndexError`. -/
  | indexError
  /-- `json.JSONDecodeError`: a file that is not valid JSON. -/
  | jsonDecodeError
  /-- `re.error`: a pattern that does not compile. -/
  | reError (message : String)
  /-- A pattern construct outside the part of `re` the model covers (character sets,
  counted repetition, escapes of letters and digits, `(?...)` groups): the model stops
  there instead of matching. -/
  | unmodelledRegex (construct : String)
  /-- `ValueError`. -/
  | valueError (message : String)
  /-- A construct of a format string outside the part of `str.format` the model covers
  (attribute access, the `!r` and `!a` conversions, a non-empty format spec): the model stops
  there instead of formatting. -/
  | unmodelledFormat (construct : String)
  /-- `NoDockerImageError`. -/
  | noDockerImage (message : String)
  /-- `InvalidInstanceConfig`. -/
  | invalidInstanceConfig (message : String)
  deriving DecidableEq, Repr

/-- Python's complaint about a value of the wrong type: an `AttributeError` or a
`TypeError`. -/
def PyError.isTypeMismatch : PyError → Bool
  | .attributeError _ | .typeError _ => true
  | _ => false

/-- `value.get(key, default)`: the value under `key` when `value` is a dict that has it,
`default` when it lacks it; any other value has no `.get`. -/
def Value.getD (value : Value) (key : String) (default : Value) : Except PyError Value :=
  match value with
  | .dict fields => pure ((fields.lookup key).getD default)
  | _ => throw (.attributeError "get")

theorem Value.getD_error {value default : Value} {key : String} {e : PyError}
    (h : value.getD key default = .error e) : e = .attributeError "get" := by
  cases value <;>
    simp_all [Value.getD, pure, Except.pure, throw, throwThe, MonadExceptOf.throw, eq_comm]

/-- `value.get(key, default)` on a value that is not a dict raises `AttributeError`. -/
theorem Value.getD_of_not_dict {value default : Value} {key : String} (h : value.isDict = false) :
    value.getD key default = .error (.attributeError "get") := by
  cases value <;> first | rfl | simp [Value.isDict] at h

theorem Value.getD_dict_of_lookup {fields : List (String × Value)} {key : String}
    {v default : Value} (h : fields.lookup key = some v) :
    (Value.dict fields).getD key default = .ok v := by
  simp [Value.getD, h, pure, Except.pure]

/-- `get` on a canonical value, with a canonical default, returns a canonical value. -/
theorem Value.getD_canonical {value default r : Value} {key : String} (hv : value.Canonical)
    (hd : default.Canonical) (h : value.getD key default = .ok r) : r.Canonical := by
  cases value with
  | dict fields =>
      simp only [Value.getD, pure, Except.pure, Except.ok.injEq] at h
      subst h
      cases hk : fields.lookup key with
      | none => exact hd
      | some v => exact ((Value.canonical_dict fields).mp hv).2 _ (mem_of_lookup_eq_some hk)
  | _ => simp [Value.getD, throw, throwThe, MonadExceptOf.throw] at h

/-- `value[key]` with a string key. -/
def Value.getItem (value : Value) (key : String) : Except PyError Value :=
  match value with
  | .dict fields =>
      match fields.lookup key with
      | some item => pure item
      | none => throw (.keyError key)
  | .list _ | .str _ => throw (.typeError "indices must be integers")
  | _ => throw (.typeError "object is not subscriptable")

/-- The constants of `paasta_tools.util.const` that the modelled code reads. -/
structure PaastaConst where
  /-- `INSTANCE_TYPES`, in the order the loaders scan them. -/
  INSTANCE_TYPES : List String
  /-- `SPACER`, joining cluster and instance into a branch name. -/
  SPACER : String
  /-- `DEPLOY_PIPELINE_NON_DEPLOY_STEPS`. -/
  DEPLOY_PIPELINE_NON_DEPLOY_STEPS : List String
  /-- `AUTO_SOACONFIG_SUBDIR`. -/
  AUTO_SOACONFIG_SUBDIR : String

end PaastaConfig
