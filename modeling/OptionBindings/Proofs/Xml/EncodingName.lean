import OptionBindings.Xml.Document

/-!
# The name of a document's encoding

A document that is not well-formed has a fault with its place. There is one other way to be
unreadable: the XML declaration gives the encoding a name that stands for no encoding of single bytes.
-/

namespace OptionBindings.Xml

def standardNames : List String :=
  ["utf-8", "iso-8859-1", "us-ascii", "utf-16", "utf-16be", "utf-16le"]

/-- A reader can tell what the bytes of the set stand for, one by one. -/
def Charset.isByByte : Charset → Bool
  | page .. | latin | otherSet => true
  | wide | noText | refusing _ => false

/-- A name that a reader can make something of, be it only to say that it does not fit. -/
def IsUsableName (name : String) : Prop :=
  String.ofList (name.toList.map Char.toLower) ∈ standardNames ∨
    ∃ charset, Charset.find? Charset.known name = some charset ∧ charset.isByByte

/-- What the name of a character set asks for, if it is no name that every reader knows. -/
def Charset.request (name : String) : Request :=
  match find? known name with
  | none => .problem (.unknown name)
  | some (page missing high) => .encoding (.page missing high.toList)
  | some latin => .encoding (.page [] ((List.range 0x80).map fun n => Char.ofNat (0x80 + n)))
  | some otherSet => .fault .unknownEncoding
  | some wide => .problem .wide
  | some noText => .problem (.noText name)
  | some (refusing why) => .problem (.refused why)

theorem request_cases (current : Encoding) (name : String) :
    (String.ofList (name.toList.map Char.toLower) ∈ standardNames ∧
        ∀ problem, current.request name ≠ .problem problem) ∨
      (String.ofList (name.toList.map Char.toLower) ∉ standardNames ∧
        current.request name = Charset.request name) := by
  unfold Encoding.request
  simp only
  split
  case h_7 h1 h2 h3 h4 h5 h6 =>
    have hstandard : String.ofList (name.toList.map Char.toLower) ∉ standardNames := by
      simp only [standardNames, List.mem_cons, List.not_mem_nil, or_false, not_or]
      exact ⟨h1, h2, h3, h4, h5, h6⟩
    refine .inr ⟨hstandard, ?_⟩
    unfold Charset.request
    cases Charset.find? Charset.known name with
    | none => rfl
    | some charset => cases charset <;> rfl
  all_goals
    rename_i hname
    refine .inl ⟨by rw [hname]; decide, fun problem => ?_⟩
    split <;> simp

theorem exists_charset_request_eq_problem_iff (name : String) :
    (∃ problem, Charset.request name = .problem problem) ↔
      ¬∃ charset, Charset.find? Charset.known name = some charset ∧ charset.isByByte := by
  unfold Charset.request
  cases Charset.find? Charset.known name with
  | none => simp
  | some charset => cases charset <;> simp [Charset.isByByte]

theorem exists_request_eq_problem_iff (current : Encoding) (name : String) :
    (∃ problem, current.request name = .problem problem) ↔ ¬IsUsableName name := by
  rw [IsUsableName, not_or, ← exists_charset_request_eq_problem_iff]
  rcases request_cases current name with ⟨hstandard, hrequest⟩ | ⟨hstandard, hrequest⟩
  · constructor
    · rintro ⟨problem, hproblem⟩
      exact absurd hproblem (hrequest problem)
    · exact fun h => absurd hstandard h.1
  · rw [hrequest]
    exact ⟨fun h => ⟨hstandard, h⟩, fun h => h.2⟩

namespace Document

def header? (bytes : List UInt8) : Option Header :=
  if Encoding.endsInMark bytes then none
  else
    let (encoding, bom) := Encoding.ofMark bytes
    let start := encoding.decode (bytes.drop bom)
    match Prolog.lexToken encoding start with
    | .ok (.instruction .declaration, rest) =>
      (Header.parse ((start.drop 5).take (start.length - rest.length - 7))).toOption
    | _ => none

def encodingName? (bytes : List UInt8) : Option String :=
  ((header? bytes).bind (·.encoding)).map (·.1)

theorem problem_readFrom (encoding : Encoding) (expect : Prolog.Expect) (standalone : Bool)
    (size : Nat) (cells rest : Cells) (problem : EncodingProblem) :
    (readFrom encoding expect standalone size cells rest).problem ≠ some (.encoding problem) := by
  rw [readFrom]
  split <;> simp

theorem problem_fails (cells : Cells) (fault : Fault) (left : Nat) (problem : EncodingProblem) :
    (fails cells fault left).problem ≠ some (.encoding problem) := by
  simp [fails]

theorem problem_readDeclared_iff (bytes : List UInt8) (encoding : Encoding) (bom : Nat)
    (cells start rest : Cells) :
    (∃ problem, (readDeclared bytes encoding bom cells start rest).problem =
        some (.encoding problem)) ↔
      ∃ name place header,
        Header.parse ((start.drop 5).take (start.length - rest.length - 7)) = .ok header ∧
          header.encoding = some (name, place) ∧ ¬IsUsableName name := by
  unfold readDeclared
  simp only
  cases Header.parse ((start.drop 5).take (start.length - rest.length - 7)) with
  | error place => simp [problem_fails]
  | ok header =>
      cases hencoding : header.encoding with
      | none => simp [problem_readFrom, hencoding]
      | some declared =>
          obtain ⟨name, place⟩ := declared
          have hiff := exists_request_eq_problem_iff encoding name
          cases hrequest : encoding.request name with
          | fault fault => simp_all [problem_fails]
          | problem problem => simp_all
          | encoding new => simp_all [problem_readFrom]

/-- A document has an unreadable encoding if its declaration names one, whatever comes after. -/
theorem exists_encoding_problem_iff (bytes : List UInt8) :
    (∃ problem, (read bytes).problem = some (.encoding problem)) ↔
      ∃ name, encodingName? bytes = some name ∧ ¬IsUsableName name := by
  unfold read encodingName? header?
  split
  · simp [problem_fails]
  · simp only
    generalize Prolog.lexToken _ _ = lexed
    split
    · simp only [problem_readDeclared_iff]
      cases Header.parse _ with
      | error place => simp [Except.toOption]
      | ok header => simp [Except.toOption]
    · simp [problem_readFrom]

end Document

end OptionBindings.Xml
