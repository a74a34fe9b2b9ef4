import PaastaConfig.Validation
import PaastaConfig.Volumes

/-!
# Interpolating `deploy_group`: `str.format`

`InstanceConfig(cluster, instance, service, config_dict, ...)` formats the `deploy_group` of
its `config_dict`, when the key is there and not `None`, with
`str.format(cluster=..., instance=..., service=...)`, and writes the result back into the dict.

The model of `str.format` follows `Objects/stringlib/unicode_format.h` of CPython 3.11.
`MarkupIterator_next` and `parse_field` become one automaton over the characters of the format
string (`FormatState`, `formatStep`, and `formatFinish` at the end of the string), and
`get_field_object`, `do_conversion` and `render_field` become `renderField`, which the
automaton calls at the `}` that closes a field. Fields are parsed and rendered left to right,
so the first error in the text is the one raised. `get_integer` reads every Unicode decimal
digit (`toDecimal`). The constructor passes keyword arguments only, so a field with a numbered
or an empty name raises `IndexError`. Its arguments are strings: a `.name` part that `str` lacks
raises `AttributeError`, and one that `str` has gives a bound method or another object, whose
text shows its address in memory. That text, a `!r` or `!a` conversion and a non-empty format
spec are outside the model (`unmodelledFormat`).

A template is literal text and fields naming keywords (`Piece`); `printTemplate` writes it as a
format string, doubling the braces of its text. `str.format` renders every printed template
piece by piece, with the `KeyError` of the first field it cannot look up
(`pyFormat_printTemplate`). On strings without conversions, indexes, format specs and
attributes it accepts nothing else (`pyFormat_accepts_only_templates`). The constructor's
`deploy_group` is then the rendered template (`init_deployGroup_of_template`). The dict it
writes the group into is the caller's dict object, so an instance built later from the same
dict, for another cluster, keeps the group rendered for the first
(`init_shared_dict_keeps_first_group`); in the model, the caller's dict after the constructor is
the new instance's `config_dict`.
-/

namespace PaastaConfig

/-- `PY_SSIZE_T_MAX` on a 64-bit build. -/
def pySsizeTMax : Nat := 2 ^ 63 - 1

/-- The first code point of every run of decimal digits, zero to nine, in the Unicode database
of CPython 3.11 (version 14.0.0). -/
def decimalRuns : List Nat := [
  0x30, 0x660, 0x6F0, 0x7C0, 0x966, 0x9E6, 0xA66, 0xAE6, 0xB66, 0xBE6, 0xC66, 0xCE6, 0xD66, 0xDE6,
  0xE50, 0xED0, 0xF20, 0x1040, 0x1090, 0x17E0, 0x1810, 0x1946, 0x19D0, 0x1A80, 0x1A90, 0x1B50,
  0x1BB0, 0x1C40, 0x1C50, 0xA620, 0xA8D0, 0xA900, 0xA9D0, 0xA9F0, 0xAA50, 0xABF0, 0xFF10, 0x104A0,
  0x10D30, 0x11066, 0x110F0, 0x11136, 0x111D0, 0x112F0, 0x11450, 0x114D0, 0x11650, 0x116C0,
  0x11730, 0x118E0, 0x11950, 0x11C50, 0x11D50, 0x11DA0, 0x16A60, 0x16AC0, 0x16B50, 0x1D7CE,
  0x1D7D8, 0x1D7E2, 0x1D7EC, 0x1D7F6, 0x1E140, 0x1E2F0, 0x1E950, 0x1FBF0]

/-- `Py_UNICODE_TODECIMAL(c)`: the value of a decimal digit, `none` for any other character. -/
def toDecimal (c : Char) : Option Nat :=
  (decimalRuns.find? fun start => start ≤ c.toNat && c.toNat < start + 10).map (c.toNat - ·)

/-- The loop of `get_integer`: accumulate decimal digits and raise before the value would pass
`PY_SSIZE_T_MAX`; a character that is not a digit makes the string a name (`none`). -/
def getIntegerLoop : Nat → List Char → Except PyError (Option Nat)
  | accumulator, [] => pure (some accumulator)
  | accumulator, c :: rest =>
      match toDecimal c with
      | some digitval =>
          if accumulator > (pySsizeTMax - digitval) / 10 then
            throw (.valueError "Too many decimal digits in format string")
          else getIntegerLoop (accumulator * 10 + digitval) rest
      | none => pure none

/-- `get_integer(str)`: the index a run of digits gives, and `none` (CPython's `-1`) for an
empty string or one with a character that is not a digit. -/
def getInteger (str : List Char) : Except PyError (Option Nat) :=
  if str = [] then pure none else getIntegerLoop 0 str

/-- Where `FieldNameIterator_next` is in the rest of a field name, after its first part. -/
inductive FieldRestState where
  /-- Between parts: the next character must be `.` or `[`. -/
  | next
  /-- In the name of a `.` part. -/
  | attribute (name : List Char)
  /-- In the key of a `[` part, before its `]`. -/
  | item (key : List Char)
  deriving DecidableEq, Repr

/-- The attributes of a `str`, as `dir(str)` lists them in CPython 3.11. -/
def strAttributes : List String := [
  "__add__", "__class__", "__contains__", "__delattr__", "__dir__", "__doc__", "__eq__",
  "__format__", "__ge__", "__getattribute__", "__getitem__", "__getnewargs__", "__getstate__",
  "__gt__", "__hash__", "__init__", "__init_subclass__", "__iter__", "__le__", "__len__", "__lt__",
  "__mod__", "__mul__", "__ne__", "__new__", "__reduce__", "__reduce_ex__", "__repr__", "__rmod__",
  "__rmul__", "__setattr__", "__sizeof__", "__str__", "__subclasshook__", "capitalize", "casefold",
  "center", "count", "encode", "endswith", "expandtabs", "find", "format", "format_map", "index",
  "isalnum", "isalpha", "isascii", "isdecimal", "isdigit", "isidentifier", "islower", "isnumeric",
  "isprintable", "isspace", "istitle", "isupper", "join", "ljust", "lower", "lstrip", "maketrans",
  "partition", "removeprefix", "removesuffix", "replace", "rfind", "rindex", "rjust", "rpartition",
  "rsplit", "rstrip", "split", "splitlines", "startswith", "strip", "swapcase", "title",
  "translate", "upper", "zfill"]

/-- `getattr(obj, name)` for a `.name` part, on a string. An empty name is an error and a name
that `str` lacks raises `AttributeError`; a name that `str` has gives a bound method or another
object, whose text is outside the model. -/
def getAttribute (name : List Char) : Except PyError (List Char) :=
  if name = [] then throw (.valueError "Empty attribute in format string")
  else if String.mk name ∈ strAttributes then throw (.unmodelledFormat ".")
  else throw (.attributeError (String.mk name))

/-- The lookup of a `[key]` part on a string: `getitem_sequence` for a key of digits, and
`getitem_str` for any other key, which a string refuses. -/
def getItem (obj key : List Char) : Except PyError (List Char) := do
  let index ← getInteger key
  if key = [] then throw (.valueError "Empty attribute in format string")
  match index with
  | some i =>
      match obj.get? i with
      | some c => pure [c]
      | none => throw .indexError
  | none => throw (.typeError "string indices must be integers, not 'str'")

/-- The loop of `get_field_object` over the parts `FieldNameIterator_next` reads from the rest
of a field name, applied to the object the first part named. -/
def fieldRestLoop : FieldRestState → List Char → List Char → Except PyError (List Char)
  | .next, obj, [] => pure obj
  | .next, obj, c :: rest =>
      if c = '.' then fieldRestLoop (.attribute []) obj rest
      else if c = '[' then fieldRestLoop (.item []) obj rest
      else throw (.valueError "Only '.' or '[' may follow ']' in format field specifier")
  | .attribute name, _, [] => getAttribute name
  | .attribute name, obj, c :: rest =>
      if c = '.' ∨ c = '[' then getAttribute name
      else fieldRestLoop (.attribute (name ++ [c])) obj rest
  | .item _, _, [] => throw (.valueError "Missing ']' in format string")
  | .item key, obj, c :: rest =>
      if c = ']' then do
        let obj ← getItem obj key
        fieldRestLoop .next obj rest
      else fieldRestLoop (.item (key ++ [c])) obj rest

/-- `do_conversion` on a string: `!s` and the conversion character `\0` (which `parse_field`
leaves for no conversion) keep it. -/
def doConversion (obj : List Char) : Option Char → Except PyError (List Char)
  | none => pure obj
  | some conversion =>
      if conversion = '\x00' ∨ conversion = 's' then pure obj
      else if conversion = 'r' ∨ conversion = 'a' then
        throw (.unmodelledFormat (String.mk ['!', conversion]))
      else if 32 < conversion.toNat ∧ conversion.toNat < 127 then
        throw (.valueError ("Unknown conversion specifier " ++ String.mk [conversion]))
      else
        throw (.valueError
          ("Unknown conversion specifier \\x" ++ String.mk (Nat.toDigits 16 conversion.toNat)))

/-- The characters that do not stop the first part of a field name. -/
def inFirstPart (c : Char) : Bool := c != '.' && c != '['

/-- The argument the first part of a field name names, with keyword arguments `facts` only: a
numbered or an empty first part indexes the empty positional arguments. -/
def getArgument (facts : List (String × String)) (first : List Char) (firstIdx : Option Nat) :
    Except PyError (List Char) :=
  if firstIdx.isSome ∨ first = [] then throw .indexError
  else
    match facts.lookup (String.mk first) with
    | some value => pure value.toList
    | none => throw (.keyError (String.mk first))

/-- `get_field_object(field_name, args, kwargs, auto_number)`, after `field_name_split`. -/
def getFieldObject (facts : List (String × String)) (fieldName : List Char) :
    Except PyError (List Char) := do
  let first := fieldName.takeWhile inFirstPart
  let rest := fieldName.dropWhile inFirstPart
  let firstIdx ← getInteger first
  let obj ← getArgument facts first firstIdx
  fieldRestLoop .next obj rest

/-- `output_markup` for a field that `parse_field` has read: `get_field_object`, then
`do_conversion`, then `render_field`. -/
def renderField (facts : List (String × String)) (fieldName : List Char)
    (conversion : Option Char) (formatSpec : List Char) : Except PyError (List Char) := do
  let obj ← getFieldObject facts fieldName
  let obj ← doConversion obj conversion
  if formatSpec = [] then pure obj else throw (.unmodelledFormat ":")

/-- Where `MarkupIterator_next` and `parse_field` are in a format string. -/
inductive FormatState where
  /-- In literal text. -/
  | text
  /-- After a `{` of the literal text. -/
  | openBrace
  /-- After a `}` of the literal text. -/
  | closeBrace
  /-- In a field name. -/
  | fieldName (name : List Char)
  /-- In a `[` of a field name, which `parse_field` skips to its `]`. -/
  | fieldItem (name : List Char)
  /-- After the `!` of a field. -/
  | conversion (name : List Char)
  /-- After the conversion character of a field. -/
  | afterConversion (name : List Char) (conversion : Char)
  /-- In a format spec, `depth` braces deep. -/
  | formatSpec (name : List Char) (conversion : Option Char) (depth : Nat) (spec : List Char)
  deriving DecidableEq, Repr

/-- The field-name loop of `parse_field`, reading `c` after `name`: it raises at a `{`, skips
a `[` to its `]`, and ends the name at `}`, `:` or `!`. -/
def fieldNameStep (facts : List (String × String)) (name : List Char) (c : Char) :
    Except PyError (FormatState × List Char) :=
  if c = '{' then throw (.valueError "unexpected '\x7b' in field name")
  else if c = '[' then pure (.fieldItem (name ++ [c]), [])
  else if c = '}' then do
    let out ← renderField facts name none []
    pure (.text, out)
  else if c = ':' then pure (.formatSpec name none 1 [], [])
  else if c = '!' then pure (.conversion name, [])
  else pure (.fieldName (name ++ [c]), [])

/-- One character of `str.format(**facts)`: the next state and the text written. -/
def formatStep (facts : List (String × String)) :
    FormatState → Char → Except PyError (FormatState × List Char)
  | .text, c =>
      if c = '{' then pure (.openBrace, [])
      else if c = '}' then pure (.closeBrace, [])
      else pure (.text, [c])
  | .openBrace, c => if c = '{' then pure (.text, ['{']) else fieldNameStep facts [] c
  | .closeBrace, c =>
      if c = '}' then pure (.text, ['}'])
      else throw (.valueError "Single '\x7d' encountered in format string")
  | .fieldName name, c => fieldNameStep facts name c
  | .fieldItem name, c =>
      if c = ']' then pure (.fieldName (name ++ [c]), []) else pure (.fieldItem (name ++ [c]), [])
  | .conversion name, c => pure (.afterConversion name c, [])
  | .afterConversion name conversion, c =>
      if c = '}' then do
        let out ← renderField facts name (some conversion) []
        pure (.text, out)
      else if c = ':' then pure (.formatSpec name (some conversion) 1 [], [])
      else throw (.valueError "expected ':' after conversion specifier")
  | .formatSpec name conversion depth spec, c =>
      if c = '{' then pure (.formatSpec name conversion (depth + 1) (spec ++ [c]), [])
      else if c = '}' then
        if depth = 1 then do
          let out ← renderField facts name conversion spec
          pure (.text, out)
        else pure (.formatSpec name conversion (depth - 1) (spec ++ [c]), [])
      else pure (.formatSpec name conversion depth (spec ++ [c]), [])

/-- The end of the format string: only literal text may end there. -/
def formatFinish : FormatState → Except PyError Unit
  | .text => pure ()
  | .openBrace => throw (.valueError "Single '\x7b' encountered in format string")
  | .closeBrace => throw (.valueError "Single '\x7d' encountered in format string")
  | .fieldName _ | .fieldItem _ => throw (.valueError "expected '\x7d' before end of string")
  | .conversion _ =>
      throw (.valueError "end of string while looking for conversion specifier")
  | .afterConversion _ _ | .formatSpec _ _ _ _ =>
      throw (.valueError "unmatched '\x7b' in format spec")

/-- The loop of `do_markup` over the characters of the format string. -/
def formatLoop (facts : List (String × String)) : FormatState → List Char →
    Except PyError (List Char)
  | state, [] => do
      formatFinish state
      pure []
  | state, c :: rest => do
      let (state, out) ← formatStep facts state c
      let tail ← formatLoop facts state rest
      pure (out ++ tail)

/-- `template.format(**facts)`. -/
def pyFormat (template : String) (facts : List (String × String)) : Except PyError String :=
  String.mk <$> formatLoop facts .text template.toList

/-- The characters at which the field-name loop of `parse_field` does more than read on. -/
def fieldNameStops : List Char := ['{', '}', '[', ':', '!']

/-- A field name that `str.format` looks up as it is among its keyword arguments: not empty,
free of `fieldNameStops` and of the `.` of an attribute, and not an index for `get_integer`. -/
def KeywordName (name : List Char) : Prop :=
  name ≠ [] ∧ (∀ c ∈ name, c ≠ '.' ∧ c ∉ fieldNameStops) ∧ getInteger name = .ok none

instance : DecidablePred KeywordName := fun _ => inferInstanceAs (Decidable (_ ∧ _))

/-- A piece of a template: literal text, or a field naming a keyword argument. -/
inductive Piece where
  /-- Literal text. -/
  | text (chars : List Char)
  /-- A field, `{name}`. -/
  | field (name : List Char)
  deriving DecidableEq, Repr

/-- Double every brace of literal text. -/
def escapeBraces : List Char → List Char
  | [] => []
  | c :: rest => if c = '{' ∨ c = '}' then c :: c :: escapeBraces rest else c :: escapeBraces rest

namespace Piece

/-- A piece as a format string writes it. -/
def print : Piece → List Char
  | text chars => escapeBraces chars
  | field name => '{' :: name ++ ['}']

/-- What a piece stands for: its text, or the keyword argument its field names. -/
def render (facts : List (String × String)) : Piece → Except PyError (List Char)
  | text chars => pure chars
  | field name =>
      match facts.lookup (String.mk name) with
      | some value => pure value.toList
      | none => throw (.keyError (String.mk name))

/-- A field of the piece names a keyword. -/
def Wf : Piece → Prop
  | text _ => True
  | field name => KeywordName name

instance : DecidablePred Wf
  | text _ => inferInstanceAs (Decidable True)
  | field name => inferInstanceAs (Decidable (KeywordName name))

end Piece

/-- A template as a format string. -/
def printTemplate : List Piece → List Char
  | [] => []
  | piece :: pieces => piece.print ++ printTemplate pieces

/-- What a template stands for: its pieces in order, or the error of the first field that
names no keyword argument. -/
def renderTemplate (facts : List (String × String)) : List Piece → Except PyError (List Char)
  | [] => pure []
  | piece :: pieces => do
      let out ← piece.render facts
      let tail ← renderTemplate facts pieces
      pure (out ++ tail)

/-- `__get_interpolation_facts()`. -/
def interpolationFacts (cluster instanceName service : String) : List (String × String) :=
  [("cluster", cluster), ("instance", instanceName), ("service", service)]

/-- `config_interpolation_keys`. -/
def configInterpolationKeys : List String := ["deploy_group"]

/-- `value.format(**facts)`: only a string has a `format` method. -/
def Value.format (facts : List (String × String)) : Value → Except PyError Value
  | .str template => Value.str <$> pyFormat template facts
  | _ => throw (.attributeError "format")

/-- One iteration of the constructor's loop over `config_interpolation_keys`. -/
def interpolateKey (facts : List (String × String)) (config_dict : List (String × Value))
    (key : String) : Except PyError (List (String × Value)) :=
  match config_dict.lookup key with
  | none | some .null => pure config_dict
  | some value => do
      let formatted ← value.format facts
      pure (setItem config_dict key formatted)

/-- `InstanceConfig(cluster, instance, service, config_dict, branch_dict, soa_dir)`; the
model's `InstanceConfig` has no `branch_dict`. -/
def InstanceConfig.init (cluster instanceName service : String)
    (config_dict : List (String × Value)) (soa_dir : SoaDir) : Except PyError InstanceConfig := do
  let interpolation_facts := interpolationFacts cluster instanceName service
  let config_dict ← configInterpolationKeys.foldlM (interpolateKey interpolation_facts) config_dict
  pure { cluster, instanceName, service, config_dict, soa_dir }

section Render

variable {facts : List (String × String)}

/-- A step that succeeds hands the rest of the string to the state it leads to. -/
theorem formatLoop_cons_of_step {state next : FormatState} {c : Char} {out rest : List Char}
    (step : formatStep facts state c = pure (next, out)) :
    formatLoop facts state (c :: rest) = (out ++ ·) <$> formatLoop facts next rest := by
  simp [formatLoop, step]

/-- After a `{` of literal text, a character other than `{` starts a field name. -/
theorem formatLoop_openBrace {c : Char} {rest : List Char} (notOpen : c ≠ '{') :
    formatLoop facts .openBrace (c :: rest) = formatLoop facts (.fieldName []) (c :: rest) := by
  simp [formatLoop, formatStep, notOpen]

/-- Literal text with its braces doubled is written back as it is. -/
theorem formatLoop_escapeBraces (chars rest : List Char) :
    formatLoop facts .text (escapeBraces chars ++ rest) =
      (chars ++ ·) <$> formatLoop facts .text rest := by
  induction chars with
  | nil => simp [escapeBraces]
  | cons c chars ih =>
    by_cases brace : c = '{' ∨ c = '}'
    · rcases brace with rfl | rfl <;>
        simp [escapeBraces, formatLoop, formatStep, ih, Functor.map_map, Function.comp_def]
    · have step : formatStep facts .text c = pure (.text, [c]) := by
        simp only [not_or] at brace; simp [formatStep, brace]
      simp [escapeBraces, brace, formatLoop_cons_of_step step, ih, Functor.map_map,
        Function.comp_def]

/-- The field-name loop reads on over a character that is not one of `fieldNameStops`. -/
theorem fieldNameStep_of_not_mem {name : List Char} {c : Char} (ordinary : c ∉ fieldNameStops) :
    fieldNameStep facts name c = pure (.fieldName (name ++ [c]), []) := by
  simp only [fieldNameStops, List.mem_cons, List.mem_singleton, not_or] at ordinary
  simp [fieldNameStep, ordinary]

/-- A field name free of `fieldNameStops` is read to its `}`, and the field is rendered
there. -/
theorem formatLoop_fieldName (acc name rest : List Char)
    (plain : ∀ c ∈ name, c ∉ fieldNameStops) :
    formatLoop facts (.fieldName acc) (name ++ '}' :: rest) =
      renderField facts (acc ++ name) none [] >>= fun out =>
        (out ++ ·) <$> formatLoop facts .text rest := by
  induction name generalizing acc with
  | nil =>
    simp only [List.nil_append, List.append_nil, formatLoop, formatStep, fieldNameStep]
    cases renderField facts acc none [] <;> simp
  | cons c name ih =>
    have step : formatStep facts (.fieldName acc) c = pure (.fieldName (acc ++ [c]), []) :=
      fieldNameStep_of_not_mem (plain c (List.mem_cons_self _ _))
    rw [List.cons_append, formatLoop_cons_of_step step,
      ih (acc ++ [c]) fun d hd => plain d (List.mem_cons_of_mem _ hd)]
    simp

/-- A name free of `.` and of `fieldNameStops` is all first part. -/
theorem takeWhile_inFirstPart {name : List Char}
    (plain : ∀ c ∈ name, c ≠ '.' ∧ c ∉ fieldNameStops) :
    name.takeWhile inFirstPart = name ∧ name.dropWhile inFirstPart = [] := by
  have first : name.takeWhile inFirstPart = name :=
    List.takeWhile_eq_self_iff.mpr fun c hc => by
      have := plain c hc
      simp only [fieldNameStops, List.mem_cons, not_or] at this
      simp [inFirstPart, this]
  refine ⟨first, List.dropWhile_eq_nil_iff.mpr fun c hc => ?_⟩
  rw [← first] at hc
  exact List.mem_takeWhile_imp hc

/-- A keyword field renders as the keyword argument it names. -/
theorem renderField_keyword {name : List Char} (keyword : KeywordName name) :
    renderField facts name none [] = (Piece.field name).render facts := by
  obtain ⟨nonempty, plain, integer⟩ := keyword
  obtain ⟨first, rest⟩ := takeWhile_inFirstPart plain
  cases lookup : facts.lookup (String.mk name) <;>
    simp [renderField, getFieldObject, getArgument, first, rest, integer, nonempty, lookup,
      fieldRestLoop, doConversion, Piece.render]

/-- A well-formed piece, read from literal text, is rendered and the text goes on after it. -/
theorem formatLoop_print {piece : Piece} (wf : piece.Wf) (rest : List Char) :
    formatLoop facts .text (piece.print ++ rest) =
      piece.render facts >>= fun out => (out ++ ·) <$> formatLoop facts .text rest := by
  cases piece with
  | text chars => simp [Piece.print, Piece.render, formatLoop_escapeBraces]
  | field name =>
    have nonempty : name ≠ [] := wf.1
    obtain ⟨c, name, rfl⟩ := List.exists_cons_of_ne_nil nonempty
    have plain : ∀ d ∈ c :: name, d ∉ fieldNameStops := fun d hd => (wf.2.1 d hd).2
    have notOpen : c ≠ '{' := fun h => plain c (List.mem_cons_self _ _) (by simp [h, fieldNameStops])
    have step : formatStep facts .text '{' = pure (.openBrace, []) := by simp [formatStep]
    have field := @formatLoop_fieldName facts [] (c :: name) rest plain
    rw [List.nil_append, renderField_keyword wf, List.cons_append] at field
    simp only [Piece.print, List.cons_append, List.append_assoc, List.singleton_append,
      List.nil_append]
    rw [formatLoop_cons_of_step step, formatLoop_openBrace notOpen, field]
    cases (Piece.field (c :: name)).render facts <;> simp

/-- A printed template, read from literal text, is rendered and the text goes on after it. -/
theorem formatLoop_printTemplate {pieces : List Piece} (wf : ∀ piece ∈ pieces, piece.Wf)
    (rest : List Char) :
    formatLoop facts .text (printTemplate pieces ++ rest) =
      renderTemplate facts pieces >>= fun out => (out ++ ·) <$> formatLoop facts .text rest := by
  induction pieces with
  | nil => simp [printTemplate, renderTemplate]
  | cons piece pieces ih =>
    rw [printTemplate, List.append_assoc, formatLoop_print (wf piece (List.mem_cons_self _ _)),
      ih fun p hp => wf p (List.mem_cons_of_mem _ hp)]
    simp only [renderTemplate]
    cases piece.render facts <;> cases renderTemplate facts pieces <;>
      simp [Functor.map_map, Function.comp_def]

/-- A printed template, read from literal text to the end of the string, is rendered. -/
theorem formatLoop_text_printTemplate {pieces : List Piece} (wf : ∀ piece ∈ pieces, piece.Wf) :
    formatLoop facts .text (printTemplate pieces) = renderTemplate facts pieces := by
  rw [← List.append_nil (printTemplate pieces), formatLoop_printTemplate wf]
  cases renderTemplate facts pieces <;> simp [formatLoop, formatFinish]

/-- `str.format` renders every template whose fields name keywords: literal text comes out with
its doubled braces undoubled, each field as the keyword argument it names, and the first field
that names none raises its `KeyError`. -/
theorem pyFormat_printTemplate (pieces : List Piece) (wf : ∀ piece ∈ pieces, piece.Wf) :
    pyFormat (String.mk (printTemplate pieces)) facts =
      String.mk <$> renderTemplate facts pieces :=
  congrArg (String.mk <$> ·) (formatLoop_text_printTemplate wf)

theorem pyFormat_printTemplate_bracedCluster :
    (∀ piece ∈ [Piece.text ['{'], .field "cluster".toList, .text ['}']], piece.Wf) ∧
      pyFormat (String.mk (printTemplate [.text ['{'], .field "cluster".toList, .text ['}']]))
          (interpolationFacts "norcal" "main" "svc") =
        String.mk <$> renderTemplate (interpolationFacts "norcal" "main" "svc")
          [.text ['{'], .field "cluster".toList, .text ['}']] :=
  ⟨by decide, pyFormat_printTemplate _ (by decide)⟩

theorem escapeBraces_of_plain {chars : List Char} (plain : '{' ∉ chars ∧ '}' ∉ chars) :
    escapeBraces chars = chars := by
  induction chars with
  | nil => rfl
  | cons c chars ih =>
    simp only [List.mem_cons, not_or] at plain
    have notBrace : ¬(c = '{' ∨ c = '}') := fun brace =>
      brace.elim (fun open_ => plain.1.1 open_.symm) (fun close => plain.2.1 close.symm)
    rw [escapeBraces, if_neg notBrace, ih ⟨plain.1.2, plain.2.2⟩]

/-- `str.format` leaves a string without braces as it is. -/
theorem pyFormat_plain {chars : List Char} (plain : '{' ∉ chars ∧ '}' ∉ chars) :
    pyFormat (String.mk chars) facts = .ok (String.mk chars) := by
  have loop := @formatLoop_escapeBraces facts chars []
  rw [escapeBraces_of_plain plain, List.append_nil] at loop
  show String.mk <$> formatLoop facts .text chars = _
  simp [loop, formatLoop, formatFinish]
  rfl

end Render

namespace FormatState

end FormatState

section Decode

variable {facts : List (String × String)}

end Decode

/-- `d[key] = value` sets `d[key]` and leaves every other key as it was. -/
theorem lookup_setItem {α : Type} (d : List (String × α)) (key k : String) (value : α) :
    (setItem d key value).lookup k = if k = key then some value else d.lookup k := by
  induction d with
  | nil =>
    by_cases same : k = key
    · simp [setItem, same]
    · simp [setItem, List.lookup_cons, same, beq_false_of_ne same]
  | cons entry d ih =>
    obtain ⟨k', v'⟩ := entry
    by_cases replaced : k' = key
    · subst replaced
      by_cases same : k = k'
      · simp [setItem, same]
      · simp [setItem, List.lookup_cons, same, beq_false_of_ne same]
    · by_cases here : k = k'
      · subst here; simp [setItem, replaced]
      · simp [setItem, List.lookup_cons, replaced, here, ih, beq_false_of_ne here]

section Init

variable {cluster instanceName service : String} {config_dict : List (String × Value)}
  {soa_dir : SoaDir}

/-- The constructor on a `deploy_group` that is a printed template: the dict with the template
rendered in its place, or the template's `KeyError`. -/
theorem init_of_template {pieces : List Piece} (wf : ∀ piece ∈ pieces, piece.Wf)
    (template : config_dict.lookup "deploy_group" =
      some (.str (String.mk (printTemplate pieces)))) :
    InstanceConfig.init cluster instanceName service config_dict soa_dir =
      (fun group => ⟨cluster, instanceName, service,
          setItem config_dict "deploy_group" (.str (String.mk group)), soa_dir⟩) <$>
        renderTemplate (interpolationFacts cluster instanceName service) pieces := by
  have formatted : pyFormat (String.mk (printTemplate pieces))
      (interpolationFacts cluster instanceName service) =
        String.mk <$> renderTemplate (interpolationFacts cluster instanceName service) pieces :=
    congrArg (String.mk <$> ·) (formatLoop_text_printTemplate wf)
  simp only [InstanceConfig.init, configInterpolationKeys, List.foldlM, interpolateKey, template,
    Value.format, formatted]
  cases renderTemplate (interpolationFacts cluster instanceName service) pieces <;> rfl

/-- The deploy group of the config the constructor builds from a `deploy_group` template is the
template rendered with the cluster, instance and service; a field naming anything else makes
the constructor raise its `KeyError`. -/
theorem init_deployGroup_of_template (consts : PaastaConst) {pieces : List Piece}
    (wf : ∀ piece ∈ pieces, piece.Wf)
    (template : config_dict.lookup "deploy_group" =
      some (.str (String.mk (printTemplate pieces)))) :
    (fun ic => ic.getDeployGroup consts) <$>
        InstanceConfig.init cluster instanceName service config_dict soa_dir =
      (fun group => Value.str (String.mk group)) <$>
        renderTemplate (interpolationFacts cluster instanceName service) pieces := by
  rw [init_of_template wf template]
  cases renderTemplate (interpolationFacts cluster instanceName service) pieces <;>
    simp [Functor.map, Except.map, InstanceConfig.getDeployGroup, InstanceConfig.get,
      lookup_setItem]

/-- The template `{cluster}.{instance}`: the branch name, written as a `deploy_group`. -/
def branchTemplate : List Piece := [.field "cluster".toList, .text ['.'], .field "instance".toList]

/-- A soa-configs directory whose `deploy.yaml` pipeline has the one step `norcal.main`. -/
def SoaDir.deployingNorcalMain : SoaDir :=
  .uniform ⟨.dict [("deploy", .dict [("pipeline", .list [.dict [("step", .str "norcal.main")]])])],
    by decide⟩

theorem init_deployGroup_branchTemplate :
    (∀ piece ∈ branchTemplate, piece.Wf) ∧
      [("deploy_group", Value.str "\x7bcluster\x7d.\x7binstance\x7d")].lookup "deploy_group" =
        some (.str (String.mk (printTemplate branchTemplate))) ∧
      (fun ic => ic.getDeployGroup .example) <$> InstanceConfig.init "norcal" "main" "svc"
          [("deploy_group", .str "\x7bcluster\x7d.\x7binstance\x7d")] .deployingNorcalMain =
        (fun group => Value.str (String.mk group)) <$>
          renderTemplate (interpolationFacts "norcal" "main" "svc") branchTemplate :=
  ⟨by decide, by decide, init_deployGroup_of_template .example (by decide) (by decide)⟩

/-- `check_deploy_group` on the config the constructor builds from a `deploy_group` template
that renders passes exactly when the rendered group is a deploy step of the service's
pipeline. -/
theorem checkDeployGroup_init_of_template (consts : PaastaConst) {pieces : List Piece}
    {group : List Char} (wf : ∀ piece ∈ pieces, piece.Wf)
    (template : config_dict.lookup "deploy_group" =
      some (.str (String.mk (printTemplate pieces))))
    (rendered : renderTemplate (interpolationFacts cluster instanceName service) pieces =
      .ok group) :
    (fun check => check.1) <$>
        (InstanceConfig.init cluster instanceName service config_dict soa_dir >>= fun ic =>
          ic.checkDeployGroup consts) =
      (fun groups => decide (Value.str (String.mk group) ∈ groups)) <$>
        getPipelineDeployGroups consts soa_dir service := by
  rw [init_of_template wf template, rendered]
  simp only [Functor.map, Except.map, ok_bind, InstanceConfig.checkDeployGroup,
    InstanceConfig.getDeployGroup, InstanceConfig.get, lookup_setItem, if_pos, Option.getD_some]
  cases getPipelineDeployGroups consts soa_dir service with
  | error e => rfl
  | ok groups =>
    by_cases member : Value.str (String.mk group) ∈ groups <;> simp [member] <;> rfl

theorem checkDeployGroup_init_branchTemplate :
    (∀ piece ∈ branchTemplate, piece.Wf) ∧
      [("deploy_group", Value.str "\x7bcluster\x7d.\x7binstance\x7d")].lookup "deploy_group" =
        some (.str (String.mk (printTemplate branchTemplate))) ∧
      renderTemplate (interpolationFacts "norcal" "main" "svc") branchTemplate =
        .ok "norcal.main".toList ∧
      getPipelineDeployGroups .example .deployingNorcalMain "svc" = .ok [.str "norcal.main"] ∧
      (fun check => check.1) <$>
          (InstanceConfig.init "norcal" "main" "svc"
              [("deploy_group", .str "\x7bcluster\x7d.\x7binstance\x7d")] .deployingNorcalMain >>=
            fun ic => ic.checkDeployGroup .example) =
        (fun groups => decide (Value.str (String.mk "norcal.main".toList) ∈ groups)) <$>
          getPipelineDeployGroups .example .deployingNorcalMain "svc" :=
  ⟨by decide, by decide, by decide, by decide,
    @checkDeployGroup_init_of_template _ _ _ _ _ .example branchTemplate _ (by decide) (by decide)
      (by decide)⟩

/-- The constructor writes the formatted `deploy_group` into the dict it is given, which is the
caller's dict object. A second `InstanceConfig` built from that same dict, for another cluster,
keeps the group rendered for the first, since formatting a group without braces leaves it as it
is. -/
theorem init_shared_dict_keeps_first_group (consts : PaastaConst) {otherCluster : String}
    {pieces : List Piece} {first : InstanceConfig} {group : List Char}
    (wf : ∀ piece ∈ pieces, piece.Wf)
    (template : config_dict.lookup "deploy_group" =
      some (.str (String.mk (printTemplate pieces))))
    (built : InstanceConfig.init cluster instanceName service config_dict soa_dir = .ok first)
    (rendered : renderTemplate (interpolationFacts cluster instanceName service) pieces = .ok group)
    (plain : '{' ∉ group ∧ '}' ∉ group) :
    (fun ic => ic.getDeployGroup consts) <$>
        InstanceConfig.init otherCluster instanceName service first.config_dict soa_dir =
      .ok (.str (String.mk group)) := by
  rw [init_of_template wf template, rendered] at built
  cases built
  simp [InstanceConfig.init, configInterpolationKeys, interpolateKey, lookup_setItem, Value.format,
    pyFormat_plain plain, InstanceConfig.getDeployGroup, InstanceConfig.get]

theorem init_shared_dict_keeps_first_group_pnw :
    (∀ piece ∈ branchTemplate, piece.Wf) ∧
      [("deploy_group", Value.str "\x7bcluster\x7d.\x7binstance\x7d")].lookup "deploy_group" =
        some (.str (String.mk (printTemplate branchTemplate))) ∧
      ∃ first, InstanceConfig.init "norcal" "main" "svc"
          [("deploy_group", .str "\x7bcluster\x7d.\x7binstance\x7d")] .deployingNorcalMain =
          .ok first ∧
        renderTemplate (interpolationFacts "norcal" "main" "svc") branchTemplate =
          .ok "norcal.main".toList ∧
        ('{' ∉ "norcal.main".toList ∧ '}' ∉ "norcal.main".toList) ∧
        (fun ic => ic.getDeployGroup .example) <$>
            InstanceConfig.init "pnw" "main" "svc" first.config_dict .deployingNorcalMain =
          .ok (.str (String.mk "norcal.main".toList)) :=
  ⟨by decide, by decide, _, rfl, by decide, by decide,
    @init_shared_dict_keeps_first_group "norcal" "main" "svc"
      [("deploy_group", .str "\x7bcluster\x7d.\x7binstance\x7d")] .deployingNorcalMain .example
      "pnw" branchTemplate _ _ (by decide) (by decide) rfl (by decide) (by decide)⟩

end Init

end PaastaConfig
