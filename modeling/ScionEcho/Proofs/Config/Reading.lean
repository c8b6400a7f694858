import ScionEcho.Proofs.Config.Refusal
import ScionEcho.Proofs.Text.Utf8

/-!
# Configuration files

What comes of a configuration file, by what is found at its path. A file is a configuration, or it
is announced that it is none, unless its bytes are no text, the reader of its document comes to an
impasse, or the path cannot be looked up. In these three cases another failure escapes.
-/

namespace ScionEcho.Config

open Text (utf8 decodeUtf8 decodeUtf8_eq_ok_iff)

/-- What comes of a configuration file whose document is read with the given reader. -/
inductive Outcome (read : Toml.Reader) (path : String) :
    FileContent → Except LoadError Config → Prop
  | missing : Outcome read path .missing
      (.error (.config (.notFound (String.ofList (shownPath path.toList)))))
  | unreadable : Outcome read path .unreadable (.error (.config .notLoaded))
  | inaccessible (cause : OsError) : Outcome read path (.inaccessible cause) (.error (.os cause))
  | undecodable {content : Bytes} {cause : Text.Utf8Error} (hcontent : ∀ text, content ≠ utf8 text)
      (hcause : decodeUtf8 content = .error cause) :
      Outcome read path (.bytes content) (.error (.encoding cause))
  | malformed {text : List Char} (htext : read text = .error .malformed) :
      Outcome read path (.bytes (utf8 text)) (.error (.config .notLoaded))
  | stuck {text : List Char} {cause : Toml.Impasse}
      (htext : read text = .error (.impasse cause)) :
      Outcome read path (.bytes (utf8 text)) (.error (.document cause))
  | refused {text : List Char} {table : ConfigTable} {cause : ConfigError}
      (htext : read text = .ok table) (htable : table.FirstOffence cause) :
      Outcome read path (.bytes (utf8 text)) (.error (.config cause))
  | loaded {text : List Char} {table : ConfigTable} {c : Config}
      (htext : read text = .ok table) (hproper : table.Proper)
      (heffective : Effective table {} c) : Outcome read path (.bytes (utf8 text)) (.ok c)

/-- What is found is neither a configuration nor announced to be none. -/
inductive Obscure (read : Toml.Reader) : FileContent → Prop
  | inaccessible (cause : OsError) : Obscure read (.inaccessible cause)
  | undecodable {content : Bytes} (hcontent : ∀ text, content ≠ utf8 text) :
      Obscure read (.bytes content)
  | stuck {text : List Char} {cause : Toml.Impasse}
      (htext : read text = .error (.impasse cause)) : Obscure read (.bytes (utf8 text))

variable {read : Toml.Reader} {path : String} {content : FileContent} {r : Except LoadError Config}

lemma ofFile_utf8 (read : Toml.Reader) (path : String) (text : List Char) :
    ofFile path (.bytes (utf8 text)) read =
      match read text with
      | .error .malformed => .error (.config .notLoaded)
      | .error (.impasse cause) => .error (.document cause)
      | .ok table => (ofTable table).mapError .config := by
  rw [ofFile, ofBytes, decodeUtf8_eq_ok_iff.mpr rfl]
  dsimp only
  cases read text with
  | error cause => cases cause <;> rfl
  | ok table =>
    dsimp only
    cases ofTable table <;> rfl

lemma ofFile_of_decodeUtf8 {bytes : Bytes} {cause : Text.Utf8Error}
    (h : decodeUtf8 bytes = .error cause) :
    ofFile path (.bytes bytes) read = .error (.encoding cause) := by
  rw [ofFile, ofBytes, h]

lemma exists_decodeUtf8 {bytes : Bytes} (h : ∀ text, bytes ≠ utf8 text) :
    ∃ cause, decodeUtf8 bytes = .error cause := by
  cases hread : decodeUtf8 bytes with
  | error cause => exact ⟨cause, rfl⟩
  | ok text => exact absurd (decodeUtf8_eq_ok_iff.mp hread) (h text)

lemma ne_utf8_of_decodeUtf8 {bytes : Bytes} {cause : Text.Utf8Error}
    (h : decodeUtf8 bytes = .error cause) (text : List Char) : bytes ≠ utf8 text := by
  intro heq
  rw [decodeUtf8_eq_ok_iff.mpr heq] at h
  cases h

/-! ### Every file has one outcome -/

lemma outcome_ofFile (read : Toml.Reader) (path : String) (content : FileContent) :
    Outcome read path content (ofFile path content read) := by
  cases content with
  | missing => exact .missing
  | unreadable => exact .unreadable
  | inaccessible cause => exact .inaccessible cause
  | bytes bytes =>
    cases hread : decodeUtf8 bytes with
    | error cause =>
      rw [ofFile_of_decodeUtf8 hread]
      exact .undecodable (ne_utf8_of_decodeUtf8 hread) hread
    | ok text =>
      rw [decodeUtf8_eq_ok_iff.mp hread, ofFile_utf8]
      cases htext : read text with
      | error cause =>
        cases cause with
        | malformed => exact .malformed htext
        | impasse cause => exact .stuck htext
      | ok table =>
        dsimp only
        cases htable : ofTable table with
        | error cause => exact .refused htext (ofTable_eq_error_iff.mp htable)
        | ok c =>
          exact .loaded htext (exists_ofTable_iff.mp ⟨c, htable⟩) (effective_of_ofTable htable)

lemma Outcome.ofFile_eq (h : Outcome read path content r) : ofFile path content read = r := by
  cases h with
  | missing => rfl
  | unreadable => rfl
  | inaccessible cause => rfl
  | undecodable _ hcause => exact ofFile_of_decodeUtf8 hcause
  | malformed htext => rw [ofFile_utf8, htext]
  | stuck htext => rw [ofFile_utf8, htext]
  | refused htext htable =>
    rw [ofFile_utf8, htext]
    dsimp only
    rw [ofTable_eq_error_iff.mpr htable, mapError_error]
  | loaded htext hproper heffective =>
    obtain ⟨c, hc⟩ := exists_ofTable_iff.mpr hproper
    rw [ofFile_utf8, htext]
    dsimp only
    rw [hc, mapError_ok, heffective.unique (effective_of_ofTable hc)]

/-- What is found at a path decides what comes of it. A file is loaded or announced to be no
configuration exactly if it can be looked up, its bytes are a text and the reader of this text does
not come to an impasse. Nothing else is asked of the reader. -/
theorem ofFile_outcome (read : Toml.Reader) (path : String) (content : FileContent) :
    (∀ r, ofFile path content read = r ↔ Outcome read path content r) ∧
      (((∃ c, ofFile path content read = .ok c) ∨
        ∃ cause, ofFile path content read = .error (.config cause)) ↔ ¬ Obscure read content) := by
  have houtcome := outcome_ofFile read path content
  refine ⟨fun r => ⟨fun h => h ▸ houtcome, Outcome.ofFile_eq⟩, ?_⟩
  constructor
  · intro hsettled hobscure
    cases hobscure with
    | inaccessible cause => rcases hsettled with ⟨c, h⟩ | ⟨cause', h⟩ <;> cases h
    | undecodable hcontent =>
      obtain ⟨cause, hcause⟩ := exists_decodeUtf8 hcontent
      rw [ofFile_of_decodeUtf8 hcause] at hsettled
      rcases hsettled with ⟨c, h⟩ | ⟨cause', h⟩ <;> cases h
    | stuck htext =>
      rw [ofFile_utf8, htext] at hsettled
      rcases hsettled with ⟨c, h⟩ | ⟨cause', h⟩ <;> cases h
  · intro hclear
    generalize ofFile path content read = r at houtcome
    cases houtcome with
    | missing => exact .inr ⟨_, rfl⟩
    | unreadable => exact .inr ⟨_, rfl⟩
    | inaccessible cause => exact absurd (.inaccessible cause) hclear
    | undecodable hcontent _ => exact absurd (.undecodable hcontent) hclear
    | malformed _ => exact .inr ⟨_, rfl⟩
    | stuck htext => exact absurd (.stuck htext) hclear
    | refused _ _ => exact .inr ⟨_, rfl⟩
    | loaded _ _ _ => exact .inl ⟨_, rfl⟩

/-- A file of one byte with which no character starts is neither. -/
theorem ofFile_undecodable :
    ¬ ((∃ c, ofFile "config.toml" (.bytes [0xff]) = .ok c) ∨
      ∃ cause, ofFile "config.toml" (.bytes [0xff]) = .error (.config cause)) := by
  have hread : decodeUtf8 [0xff] = .error ⟨.start, 0, [0xff]⟩ := by
    with_unfolding_all rfl
  rw [ofFile_of_decodeUtf8 hread]
  rintro (⟨c, h⟩ | ⟨cause, h⟩) <;> cases h

end ScionEcho.Config
