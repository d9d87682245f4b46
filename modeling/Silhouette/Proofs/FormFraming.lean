import Silhouette.Http.FormData
import Silhouette.Http.ReceivedForm
import Silhouette.Proofs.Folder
import Silhouette.Proofs.Marks

/-! How a form of one part is taken apart again. What ends a part is the first delimiter behind its boundary line, so a
form can be taken apart in one way only; and it is the way in which the form was put together, whatever the content
looks like, if the boundary does not occur in that. A quote or a backslash in a file name is told from the quote that
ends the name by the backslash in front of it. -/
namespace Silhouette.Http

open ReceivedForm (lineEnd dashes)
open Text.Utf8 (encode encode_append char_mem_of_byte_mem)

/-! ## Parts and where they end -/

/-- A part as it stands in a form: the lines of its header, and its content. -/
structure RawPart where
  lines : List (List UInt8)
  content : List UInt8

namespace RawPart

/-- Lines with their ends, the empty line, and the content. -/
def behind : List (List UInt8) → List UInt8 → List UInt8
  | [], content => lineEnd ++ content
  | line :: lines, content => line ++ (lineEnd ++ behind lines content)

/-- A part with the end of the boundary line in front of it. -/
def bytes (p : RawPart) : List UInt8 := lineEnd ++ behind p.lines p.content

/-- A line of a header holds something, and no part of the end of a line. -/
structure IsLine (line : List UInt8) : Prop where
  given : line ≠ []
  noReturn : 13 ∉ line
  noFeed : 10 ∉ line

end RawPart

/-- What ends a part: the end of its last line, and a boundary. -/
def delimiter (boundary : List UInt8) : List UInt8 := lineEnd ++ (dashes ++ boundary)

/-- What may stand behind a boundary: the end of the form, whatever follows it, or one more part up to the first
delimiter, and what may stand behind that. -/
inductive Sections (boundary : List UInt8) : List UInt8 → List RawPart → Prop where
  | close (rest : List UInt8) : Sections boundary (dashes ++ rest) []
  | part {p : RawPart} {parts : List RawPart} {rest : List UInt8} (lined : ∀ line ∈ p.lines, RawPart.IsLine line)
      (first : Clear (delimiter boundary) p.bytes (delimiter boundary ++ rest))
      (more : Sections boundary rest parts) :
      Sections boundary (p.bytes ++ (delimiter boundary ++ rest)) (p :: parts)

/-- A form of some parts begins with a boundary. -/
inductive IsForm (boundary : List UInt8) : List UInt8 → List RawPart → Prop where
  | opened {rest : List UInt8} {parts : List RawPart} (sections : Sections boundary rest parts) :
      IsForm boundary (dashes ++ boundary ++ rest) parts

variable {boundary form rest content content' : List UInt8} {lines lines' : List (List UInt8)}
  {p q : RawPart} {parts parts' : List RawPart}

namespace RawPart

theorem clear_line {line : List UInt8} (whole : IsLine line) : Clear lineEnd line rest :=
  .of_notMem whole.noReturn

/-- Lines end where the first empty one stands. -/
theorem behind_inj (lined : ∀ line ∈ lines, IsLine line) (lined' : ∀ line ∈ lines', IsLine line)
    (same : behind lines content = behind lines' content') : lines = lines' ∧ content = content' := by
  induction lines generalizing lines' with
  | nil =>
    cases lines' with
    | nil => exact ⟨rfl, List.append_cancel_left same⟩
    | cons line' lines' =>
      obtain ⟨whole', -⟩ := List.forall_mem_cons.mp lined'
      exact absurd (Clear.nil.unique (clear_line whole') same).1.symm whole'.given
  | cons line lines ih =>
    obtain ⟨whole, others⟩ := List.forall_mem_cons.mp lined
    cases lines' with
    | nil => exact absurd ((clear_line whole).unique .nil same).1 whole.given
    | cons line' lines' =>
      obtain ⟨whole', others'⟩ := List.forall_mem_cons.mp lined'
      obtain ⟨rfl, left⟩ := (clear_line whole).unique (clear_line whole') same
      obtain ⟨rfl, rfl⟩ := ih others others' left
      exact ⟨rfl, rfl⟩

theorem bytes_inj (lined : ∀ line ∈ p.lines, IsLine line) (lined' : ∀ line ∈ q.lines, IsLine line)
    (same : p.bytes = q.bytes) : p = q := by
  obtain ⟨lines, contents⟩ := behind_inj lined lined' (List.append_cancel_left same)
  cases p
  cases q
  cases lines
  cases contents
  rfl

/-- No delimiter begins with the end of a line that no boundary follows. -/
theorem clear_lineEnd (other : ¬ dashes ++ boundary <+: rest) : Clear (delimiter boundary) lineEnd rest := by
  intro before behind found
  match before with
  | [] =>
    have left : rest = dashes ++ boundary ++ behind := by simpa [delimiter] using found
    exact absurd ⟨behind, left.symm⟩ other
  | [b] => simp [delimiter, lineEnd] at found
  | _ :: _ :: _ => simp [lineEnd]

/-- No delimiter begins in a part whose lines begin with no dash, if the boundary does not occur in the content. -/
theorem clear_bytes (lined : ∀ line ∈ p.lines, IsLine line) (other : ∀ line ∈ p.lines, line.head? ≠ some 45)
    (single : 13 ∉ boundary) (absent : ¬ boundary <:+: p.content) :
    Clear (delimiter boundary) p.bytes (delimiter boundary ++ rest) := by
  -- what is longer than the boundary and ends with it does not occur in the content either
  have longer : ∀ front, ¬ front ++ boundary <:+: p.content := fun front found =>
    absent ((List.suffix_append front boundary).isInfix.trans found)
  have ending : Clear (delimiter boundary) (lineEnd ++ p.content) (delimiter boundary ++ rest) := by
    refine .append (clear_lineEnd ?_) (.of_absent (by simpa [dashes] using single) (longer [10, 45, 45]))
    rintro ⟨behind, found⟩
    have opening : p.content ++ (delimiter boundary ++ rest) = [] ++ (dashes ++ boundary ++ behind) := found.symm
    have later := length_lt_of_absent (by simpa [dashes] using single) (longer dashes) opening
    exact absurd later (Nat.not_lt_zero _)
  obtain ⟨lines, content⟩ := p
  change Clear (delimiter boundary) (lineEnd ++ behind lines content) _
  induction lines with
  | nil => exact .append (clear_lineEnd (by simp [behind, lineEnd, dashes])) ending
  | cons line lines ih =>
    obtain ⟨whole, others⟩ := List.forall_mem_cons.mp lined
    obtain ⟨undashed, rests⟩ := List.forall_mem_cons.mp other
    refine .append (clear_lineEnd ?_) (.append (.of_notMem whole.noReturn) (ih others rests absent longer ending))
    rintro ⟨behind, found⟩
    obtain ⟨first, line, rfl⟩ := List.exists_cons_of_ne_nil whole.given
    obtain ⟨rfl, -⟩ := List.cons.inj found
    exact undashed rfl

end RawPart

/-- What stands behind a boundary is taken apart in one way. -/
theorem Sections.unique (sections : Sections boundary form parts) (sections' : Sections boundary form parts') :
    parts = parts' := by
  induction sections generalizing parts' with
  | close rest =>
    generalize whole : dashes ++ rest = form at sections'
    cases sections' with
    | close rest' => rfl
    | part lined first more => simp [dashes, RawPart.bytes, lineEnd] at whole
  | @part p parts rest lined first more ih =>
    generalize whole : p.bytes ++ (delimiter boundary ++ rest) = form at sections'
    cases sections' with
    | close rest' => simp [dashes, RawPart.bytes, lineEnd] at whole
    | part lined' first' more' =>
      obtain ⟨same, rfl⟩ := first.unique first' whole
      rw [RawPart.bytes_inj lined lined' same, ih more']

theorem IsForm.unique (holds : IsForm boundary form parts) (holds' : IsForm boundary form parts') :
    parts = parts' := by
  cases holds with
  | opened sections =>
    generalize whole : dashes ++ boundary ++ _ = form at holds'
    cases holds' with
    | opened sections' =>
      rw [List.append_cancel_left whole] at sections
      exact sections.unique sections'

/-! ## Names between quotes -/

/-- Bytes as they stand between quotes, and what they mean: behind a backslash each byte means itself. -/
inductive Quotes : List UInt8 → List UInt8 → Prop where
  | nil : Quotes [] []
  | plain {b : UInt8} {written meant : List UInt8} (noQuote : b ≠ 34) (noBackslash : b ≠ 92)
      (more : Quotes written meant) : Quotes (b :: written) (b :: meant)
  | escaped {b : UInt8} {written meant : List UInt8} (more : Quotes written meant) :
      Quotes (92 :: b :: written) (b :: meant)

/-- A line that tells the name of a part and the name of its file. -/
inductive Disposes : List UInt8 → List UInt8 → List UInt8 → Prop where
  | line {writtenName name writtenFile filename : List UInt8} (named : Quotes writtenName name)
      (filed : Quotes writtenFile filename) :
      Disposes (encode "Content-Disposition: form-data; name=" ++ 34 :: (writtenName ++
        34 :: (encode "; filename=" ++ 34 :: (writtenFile ++ [34])))) name filename

namespace Quotes

variable {written written' meant meant' left left' : List UInt8} {c : Char} {cs : List Char}

/-- What stands between quotes ends with the first quote that has no backslash, and means one thing. -/
theorem unique (quotes : Quotes written meant) (quotes' : Quotes written' meant')
    (same : written ++ 34 :: left = written' ++ 34 :: left') : meant = meant' ∧ left = left' := by
  induction quotes generalizing written' meant' with
  | nil =>
    cases quotes' with
    | nil => exact ⟨rfl, (List.cons.inj same).2⟩
    | plain noQuote _ _ => exact absurd (List.cons.inj same).1.symm noQuote
    | escaped _ => simp at same
  | plain noQuote noBackslash more ih =>
    cases quotes' with
    | nil => exact absurd (List.cons.inj same).1 noQuote
    | plain _ _ more' =>
      obtain ⟨rfl, rests⟩ := List.cons.inj same
      obtain ⟨rfl, rfl⟩ := ih more' rests
      exact ⟨rfl, rfl⟩
    | escaped _ => exact absurd (List.cons.inj same).1 noBackslash
  | escaped more ih =>
    cases quotes' with
    | nil => simp at same
    | plain _ noBackslash _ => exact absurd (List.cons.inj same).1.symm noBackslash
    | escaped more' =>
      obtain ⟨-, behind⟩ := List.cons.inj same
      obtain ⟨rfl, rests⟩ := List.cons.inj behind
      obtain ⟨rfl, rfl⟩ := ih more' rests
      exact ⟨rfl, rfl⟩

theorem append_plain (free : ∀ b ∈ left, b ≠ 34 ∧ b ≠ 92) (more : Quotes written meant) :
    Quotes (left ++ written) (left ++ meant) := by
  induction left with
  | nil => exact more
  | cons b left ih =>
    obtain ⟨⟨noQuote, noBackslash⟩, others⟩ := List.forall_mem_cons.mp free
    exact .plain noQuote noBackslash (ih others)

/-- A byte of ASCII is not among those of another character. -/
theorem notMem_encodeChar {b : UInt8} (ascii : b.toNat < 128) (other : c ≠ Char.ofNat b.toNat) :
    b ∉ String.utf8EncodeChar c := by
  intro written
  have alone : b ∈ encode (String.ofList [c]) := by simpa [Text.Utf8.encode_eq_flatMap] using written
  have member := char_mem_of_byte_mem ascii alone
  rw [String.toList_ofList, List.mem_singleton] at member
  exact other member.symm

theorem free_of_ne (noQuote : c ≠ '"') (noBackslash : c ≠ '\\') :
    ∀ b ∈ String.utf8EncodeChar c, b ≠ 34 ∧ b ≠ 92 := by
  intro b written
  constructor
  · rintro rfl
    exact notMem_encodeChar (by decide) noQuote written
  · rintro rfl
    exact notMem_encodeChar (by decide) noBackslash written

/-- A file name is meant by the way it is written between quotes. -/
theorem escape_quotes (filename : String) : Quotes (encode (FormPart.escape filename)) (encode filename) := by
  rw [Text.Utf8.encode_eq_flatMap, Text.Utf8.encode_eq_flatMap, FormPart.escape, String.toList_ofList]
  induction filename.toList with
  | nil => exact .nil
  | cons c cs ih =>
    rw [List.flatMap_cons, List.flatMap_append, List.flatMap_cons]
    by_cases special : c = '\\' ∨ c = '"' ∨ c = '\r' ∨ c = '\n'
    · rw [FormPart.escapeChar, if_pos special]
      rcases special with rfl | rfl | rfl | rfl <;> exact .escaped ih
    · rw [FormPart.escapeChar, if_neg special, List.flatMap_singleton]
      simp only [not_or] at special
      exact append_plain (free_of_ne special.2.1 special.1) ih

end Quotes

theorem Disposes.unique {line name filename name' filename' : List UInt8} (disposes : Disposes line name filename)
    (disposes' : Disposes line name' filename') : name = name' ∧ filename = filename' := by
  cases disposes with
  | line named filed =>
    generalize whole : encode "Content-Disposition: form-data; name=" ++ _ = line at disposes'
    cases disposes' with
    | line named' filed' =>
      obtain ⟨rfl, left⟩ := named.unique named' (List.cons.inj (List.append_cancel_left whole)).2
      obtain ⟨rfl, -⟩ := filed.unique filed' (List.cons.inj (List.append_cancel_left left)).2
      exact ⟨rfl, rfl⟩

/-! ## Forms as they are sent -/

/-- A text that stays within the line it is written in. -/
def OneLine (s : String) : Prop := ∀ c ∈ s.toList, c ≠ '\r' ∧ c ≠ '\n'

instance : DecidablePred OneLine := fun s =>
  decidable_of_iff (s.toList.all fun c => c ≠ '\r' && c ≠ '\n') (by simp [OneLine])

theorem OneLine.append {s t : String} (first : OneLine s) (second : OneLine t) : OneLine (s ++ t) := by
  rw [OneLine, String.toList_append, List.forall_mem_append]
  exact ⟨first, second⟩

/-- A text in one line makes a line of a header, if it holds something. -/
theorem OneLine.isLine {s : String} {b : UInt8} (oneLine : OneLine s) (first : (encode s).head? = some b) :
    RawPart.IsLine (encode s) where
  given := by
    intro none
    rw [none] at first
    cases first
  noReturn := fun written => (oneLine _ (char_mem_of_byte_mem (by decide) written)).1 rfl
  noFeed := fun written => (oneLine _ (char_mem_of_byte_mem (by decide) written)).2 rfl

theorem head?_encode_append {s t : String} {b : UInt8} (first : (encode s).head? = some b) :
    (encode (s ++ t)).head? = some b := by
  rw [encode_append, List.head?_append, first]
  rfl

namespace FormPart

/-- The line with the names of a part. -/
def dispositionLine (p : FormPart) : String :=
  "Content-Disposition: form-data; name=\"" ++ p.name ++ "\"; filename=\"" ++ escape p.filename ++ "\""

/-- The line with the type of a part. -/
def typeLine (p : FormPart) : String := "Content-Type: " ++ p.contentType

/-- A part with its header as it is sent. -/
def raw (p : FormPart) : RawPart :=
  ⟨[Text.Utf8.encode p.dispositionLine, Text.Utf8.encode p.typeLine], p.content.data.toList⟩

variable {p : FormPart} {boundary : String}

theorem encode_lineEnd : Text.Utf8.encode "\r\n" = lineEnd := by
  rw [Text.Utf8.encode_eq_flatMap]
  decide

theorem encode_dashes : Text.Utf8.encode "--" = dashes := by
  rw [Text.Utf8.encode_eq_flatMap]
  decide

theorem header_eq (p : FormPart) :
    p.header = p.dispositionLine ++ ("\r\n" ++ (p.typeLine ++ ("\r\n" ++ "\r\n"))) := by
  have between : "\"\r\nContent-Type: " = "\"" ++ ("\r\n" ++ "Content-Type: ") := by decide
  have empty : "\r\n\r\n" = "\r\n" ++ "\r\n" := by decide
  unfold header dispositionLine typeLine
  rw [between, empty]
  simp only [String.append_assoc]

/-- A form that is sent: a boundary, the part, the delimiter, and two dashes at the end. -/
theorem encode_eq (p : FormPart) (boundary : String) : (p.encode boundary).data.toList =
    dashes ++ Text.Utf8.encode boundary ++
      (p.raw.bytes ++ (delimiter (Text.Utf8.encode boundary) ++ (dashes ++ lineEnd))) := by
  have ending : "\r\n--" = "\r\n" ++ "--" := by decide
  have last : "--\r\n" = "--" ++ "\r\n" := by decide
  rw [encode, header_eq, ending, last]
  simp only [ByteArray.data_append, Array.toList_append, ← Text.Utf8.encode_eq_data, encode_append, encode_lineEnd,
    encode_dashes, raw, RawPart.bytes, RawPart.behind, delimiter, List.append_assoc]

/-- Each text in the header of a part stays within its line. -/
structure OneLined (p : FormPart) : Prop where
  name : OneLine p.name
  filename : OneLine p.filename
  contentType : OneLine p.contentType

theorem oneLine_escape {filename : String} (oneLine : OneLine filename) : OneLine (escape filename) := by
  rw [OneLine, escape, String.toList_ofList]
  intro c written
  obtain ⟨d, member, escaped⟩ := List.mem_flatMap.mp written
  unfold escapeChar at escaped
  split at escaped
  · rcases List.mem_pair.mp escaped with rfl | rfl
    · decide
    · exact oneLine _ member
  · rw [List.mem_singleton.mp escaped]
    exact oneLine d member

theorem head?_dispositionLine (p : FormPart) : (Text.Utf8.encode p.dispositionLine).head? = some 67 := by
  unfold dispositionLine
  refine head?_encode_append (head?_encode_append (head?_encode_append (head?_encode_append ?_)))
  rw [Text.Utf8.encode_eq_flatMap]
  decide

theorem head?_typeLine (p : FormPart) : (Text.Utf8.encode p.typeLine).head? = some 67 := by
  unfold typeLine
  refine head?_encode_append ?_
  rw [Text.Utf8.encode_eq_flatMap]
  decide

theorem raw_lined (oneLined : p.OneLined) : ∀ line ∈ p.raw.lines, RawPart.IsLine line := by
  have disposition : OneLine p.dispositionLine := by
    have filename := oneLine_escape oneLined.filename
    exact .append (.append (.append (.append (by decide) oneLined.name) (by decide)) filename) (by decide)
  have type : OneLine p.typeLine := .append (by decide) oneLined.contentType
  simp only [raw, List.forall_mem_cons]
  exact ⟨disposition.isLine (head?_dispositionLine p), type.isLine (head?_typeLine p), List.forall_mem_nil _⟩

/-- A form that is sent holds its part and nothing else. -/
theorem isForm_iff {parts : List RawPart} (oneLined : p.OneLined) (single : '\r' ∉ boundary.toList)
    (absent : ¬ Text.Utf8.encode boundary <:+: p.content.data.toList) :
    IsForm (Text.Utf8.encode boundary) (p.encode boundary).data.toList parts ↔ parts = [p.raw] := by
  have unbroken : 13 ∉ Text.Utf8.encode boundary := fun written => single (char_mem_of_byte_mem (by decide) written)
  have undashed : ∀ line ∈ p.raw.lines, line.head? ≠ some 45 := by
    simp only [raw, List.forall_mem_cons, head?_dispositionLine, head?_typeLine]
    exact ⟨by decide, by decide, List.forall_mem_nil _⟩
  have holds : IsForm (Text.Utf8.encode boundary) (p.encode boundary).data.toList [p.raw] := by
    have lined := raw_lined oneLined
    rw [encode_eq]
    exact .opened (.part lined (RawPart.clear_bytes lined undashed unbroken absent) (.close lineEnd))
  constructor
  · intro holds'
    exact holds'.unique holds
  · rintro rfl
    exact holds

/-- The line with the names tells each name as it is. -/
theorem disposes_iff {name filename : List UInt8} (plain : ∀ c ∈ p.name.toList, c ≠ '"' ∧ c ≠ '\\') :
    Disposes (Text.Utf8.encode p.dispositionLine) name filename ↔
      name = Text.Utf8.encode p.name ∧ filename = Text.Utf8.encode p.filename := by
  have named : Quotes (Text.Utf8.encode p.name) (Text.Utf8.encode p.name) := by
    have free : ∀ b ∈ Text.Utf8.encode p.name, b ≠ 34 ∧ b ≠ 92 := by
      rw [Text.Utf8.encode_eq_flatMap]
      intro b written
      obtain ⟨c, member, byte⟩ := List.mem_flatMap.mp written
      exact Quotes.free_of_ne (plain c member).1 (plain c member).2 b byte
    simpa using Quotes.append_plain free .nil
  have tells : Disposes (Text.Utf8.encode p.dispositionLine) (Text.Utf8.encode p.name)
      (Text.Utf8.encode p.filename) := by
    have opening : Text.Utf8.encode "Content-Disposition: form-data; name=\"" =
        Text.Utf8.encode "Content-Disposition: form-data; name=" ++ [34] := by
      rw [Text.Utf8.encode_eq_flatMap, Text.Utf8.encode_eq_flatMap]
      decide
    have between : Text.Utf8.encode "\"; filename=\"" = 34 :: (Text.Utf8.encode "; filename=" ++ [34]) := by
      rw [Text.Utf8.encode_eq_flatMap, Text.Utf8.encode_eq_flatMap]
      decide
    have ending : Text.Utf8.encode "\"" = [34] := by
      rw [Text.Utf8.encode_eq_flatMap]
      decide
    have line := Disposes.line named (Quotes.escape_quotes p.filename)
    unfold dispositionLine
    rw [encode_append, encode_append, encode_append, encode_append, opening, between, ending]
    simpa using line
  constructor
  · intro tells'
    exact tells'.unique tells
  · rintro ⟨rfl, rfl⟩
    exact tells

end FormPart

end Silhouette.Http
