import CombatContent.Zig.Quoted

/-!
# Zig identifiers

A name stands for itself if it is made of letters, digits and underscores, does not begin with a
digit, and is not a word that the language keeps. Every other name is a quoted string after an at
sign.
-/

namespace CombatContent.Zig

/-- Words that the language keeps for itself: keywords, and names of primitive types and values. -/
def reserved : List String := [
  "addrspace", "align", "allowzero", "and", "anyframe", "anytype", "asm", "async", "await",
  "break", "callconv", "catch", "comptime", "const", "continue", "defer", "else", "enum",
  "errdefer", "error", "export", "extern", "fn", "for", "if", "inline", "linksection",
  "noalias", "noinline", "nosuspend", "opaque", "or", "orelse", "packed", "pub", "resume",
  "return", "struct", "suspend", "switch", "test", "threadlocal", "try", "union",
  "unreachable", "usingnamespace", "var", "volatile", "while",
  "anyerror", "anyopaque", "bool", "comptime_float", "comptime_int", "f16", "f32", "f64",
  "f80", "f128", "false", "isize", "noreturn", "null", "true", "type", "undefined", "usize",
  "void", "c_char", "c_short", "c_ushort", "c_int", "c_uint", "c_long", "c_ulong",
  "c_longlong", "c_ulonglong", "c_longdouble"]

/-- Whether a name is that of an integer type: a letter for the sign, and a count of bits. -/
def isIntegerType : List Char → Bool
  | 'i' :: bits => !bits.isEmpty && bits.all Char.isDigit
  | 'u' :: bits => !bits.isEmpty && bits.all Char.isDigit
  | _ => false

/-- Whether a name is made of the letters, digits and underscores of an identifier. -/
def isWord : List Char → Bool
  | [] => false
  | c :: cs => (c.isAlpha || c == '_') && cs.all fun d => d.isAlphanum || d == '_'

/-- Whether a name can stand for itself. -/
def isPlainIdentifier (s : String) : Bool :=
  isWord s.toList && s != "_" && !reserved.contains s && !isIntegerType s.toList

/-- A name as an identifier. -/
def identifier (s : String) : String :=
  if isPlainIdentifier s then s else "@" ++ quoted s

end CombatContent.Zig
