import ApiForge.Proofs.Json.RoundTrip
import ApiForge.Proofs.Text.Utf8Decoding
import ApiForge.Publishing.Listing

/-!
# Stored manifests

A manifest whose texts can be encoded is read back from what is stored of it,
if its counters have no more digits than a number may have.
-/

namespace ApiForge.Manifest

open Json (IsPlain keyed isLegible isShort)

/-! ## The record -/

/-- The texts of a manifest. -/
def texts (manifest : Manifest) : List Text :=
  [manifest.name, manifest.title, manifest.version, manifest.sourceUrl, manifest.generatedAt] ++
    manifest.description.toList ++ manifest.baseUrl.toList ++ manifest.files

/-- Each text of a manifest can be encoded. -/
def IsEncodable (manifest : Manifest) : Prop :=
  ∀ text ∈ manifest.texts, ∀ letter ∈ text, isLoneSurrogate letter = false

/-- The counters are short enough to be read. -/
def hasShortCounters (manifest : Manifest) : Bool :=
  isShort manifest.stats.operations && isShort manifest.stats.schemas && isShort manifest.stats.tags

theorem elements_texts (texts : List Text) :
    Checked.elements Checked.text (texts.map .str) = .ok texts := by
  suffices general : ∀ texts : List Text, ∀ place : Nat → Text,
      Checked.all ((texts.map Value.str).mapIdx fun position item =>
        (Checked.text item).within (place position)) = .ok texts from general texts Text.ofNat
  intro texts
  induction texts with
  | nil => exact fun _ => rfl
  | cons text texts ih =>
      intro place
      rw [List.map_cons, List.mapIdx_cons, Checked.all, ih fun position => place (position + 1)]
      rfl

/-- The record of a manifest is read as the manifest. -/
theorem read_toRecord (manifest : Manifest) : read manifest.toRecord = .ok manifest := by
  obtain ⟨name, title, version, description, sourceUrl, baseUrl, generatedAt, files, stats⟩ := manifest
  let opened : Checked (List Text → Stats → Manifest) :=
    .ok (Manifest.mk name title version description sourceUrl baseUrl generatedAt)
  have fields : read (toRecord ⟨name, title, version, description, sourceUrl, baseUrl, generatedAt,
      files, stats⟩) =
      (opened.and ((Checked.elements Checked.text (files.map .str)).within "files")).and (.ok stats) := by
    cases description <;> cases baseUrl <;> rfl
  rw [fields, elements_texts]
  rfl

/-! ## Plain records -/

section

variable {allowed : Char → Prop}

theorem isPlain_texts {texts : List Text} (whole : ∀ text ∈ texts, ∀ letter ∈ text, allowed letter) :
    IsPlain allowed (.list (texts.map .str)) := by
  refine .list fun item member => ?_
  obtain ⟨text, listed, rfl⟩ := List.mem_map.mp member
  exact .str (whole text listed)

theorem isPlain_textOrNull {text : Option Text}
    (whole : ∀ given ∈ text.toList, ∀ letter ∈ given, allowed letter) :
    IsPlain allowed (textOrNull text) := by
  cases text with
  | none => exact .null
  | some text => exact .str (whole text List.mem_cons_self)

variable (letters : ∀ letter : Char, letter.isAlpha = true → allowed letter)
include letters

/-- A record is plain if its fields are; their names are distinct and consist of letters. -/
theorem isPlain_recordOf {fields : List (Text × Value)} (distinct : (fields.map (·.1)).Nodup)
    (named : (fields.all fun field => field.1.all Char.isAlpha) = true)
    (plain : ∀ field ∈ fields, IsPlain allowed field.2) : IsPlain allowed (recordOf fields) := by
  refine .record distinct (fun field member letter inName => letters letter ?_) plain
  exact List.all_eq_true.mp (List.all_eq_true.mp named field member) letter inName

theorem isPlain_statsRecord (stats : Stats) : IsPlain allowed (statsRecord stats) :=
  isPlain_recordOf letters (by simp) (by rfl) (by simp [IsPlain.int])

/-- The record of a manifest is plain if its texts are. -/
theorem isPlain_toRecord {manifest : Manifest}
    (whole : ∀ text ∈ manifest.texts, ∀ letter ∈ text, allowed letter) :
    IsPlain allowed manifest.toRecord := by
  have plain {text : Text} (member : text ∈ manifest.texts) : IsPlain allowed (.str text) :=
    .str (whole text member)
  refine isPlain_recordOf letters (by simp) (by rfl) fun field member => ?_
  simp only [List.mem_cons, List.not_mem_nil, or_false] at member
  rcases member with rfl | rfl | rfl | rfl | rfl | rfl | rfl | rfl | rfl
  · exact plain (by simp [texts])
  · exact plain (by simp [texts])
  · exact plain (by simp [texts])
  · exact isPlain_textOrNull fun text member => whole text (by simp_all [texts])
  · exact plain (by simp [texts])
  · exact isPlain_textOrNull fun text member => whole text (by simp_all [texts])
  · exact plain (by simp [texts])
  · exact isPlain_texts fun text member => whole text (by simp [texts, member])
  · exact isPlain_statsRecord letters manifest.stats

end

/-! ## The stored text -/

/-- A character that can be encoded. -/
abbrev IsWhole (letter : Char) : Prop :=
  isLoneSurrogate letter = false

theorem isWhole_of_isAlpha {letter : Char} (alphabetic : letter.isAlpha = true) : IsWhole letter := by
  have small : letter.toNat ≤ 122 := by
    rcases Bool.or_eq_true_iff.mp alphabetic with upper | lower
    · have atMost : letter.val ≤ 'Z'.val := (of_decide_eq_true upper).2
      exact Nat.le_trans (UInt32.le_iff_toNat_le.mp atMost) (by decide)
    · have atMost : letter.val ≤ 'z'.val := of_decide_eq_true (Bool.and_eq_true_iff.mp lower).2
      exact UInt32.le_iff_toNat_le.mp atMost
  exact decide_eq_false (by rw [surrogateShift]; omega)

theorem isPlain_of_isEncodable {manifest : Manifest} (encodable : manifest.IsEncodable) :
    IsPlain IsWhole manifest.toRecord :=
  isPlain_toRecord (fun _ => isWhole_of_isAlpha) encodable

theorem itemsAreLegible_texts (texts : List Text) :
    Json.itemsAreLegible (texts.map .str) = true := by
  induction texts with
  | nil => rfl
  | cons text texts ih => exact ih

theorem isLegible_toRecord (manifest : Manifest) :
    isLegible manifest.toRecord = manifest.hasShortCounters := by
  have files := itemsAreLegible_texts manifest.files
  obtain ⟨name, title, version, description, sourceUrl, baseUrl, generatedAt, files, stats⟩ := manifest
  cases description <;> cases baseUrl <;>
    simp_all [toRecord, statsRecord, recordOf, hasShortCounters, isLegible, Json.entriesAreLegible,
      textOrNull, Bool.and_assoc]

/-- What is stored of a manifest that can be encoded: a form of its record on several lines. -/
theorem exists_stored {manifest : Manifest} (encodable : manifest.IsEncodable) :
    ∃ text, manifest.stored = text ++ ['\n'] ∧ Json.Spells IsWhole text manifest.toRecord := by
  obtain ⟨text, form, spells⟩ := (isPlain_of_isEncodable encodable).exists_form? .indented 0
  exact ⟨text, by rw [stored, spell, Json.indented?, form]; rfl, spells⟩

theorem isWhole_of_isWritten {letter : Char} (written : Json.IsWritten IsWhole letter) :
    IsWhole letter := by
  rcases written with rfl | ⟨_, small | whole⟩
  · decide
  · exact decide_eq_false (by rw [surrogateShift]; omega)
  · exact whole

/-- A record that is written without half pairs holds none. -/
theorem holdsLoneSurrogate_toRecord {manifest : Manifest} (encodable : manifest.IsEncodable) :
    holdsLoneSurrogate manifest.toRecord = false := by
  obtain ⟨text, form, spells⟩ := (isPlain_of_isEncodable encodable).exists_form? .line 0
  rw [holdsLoneSurrogate, Json.line?, form, Option.getD_some, List.any_eq_false]
  intro letter member
  rw [isWhole_of_isWritten (spells.letters letter member)]
  decide

/-- A stored text spells its manifest if the counters are short, and none otherwise. -/
theorem ofText?_stored {manifest : Manifest} (encodable : manifest.IsEncodable) :
    ofText? manifest.stored = if manifest.hasShortCounters then some manifest else none := by
  obtain ⟨text, spelled, spells⟩ := exists_stored encodable
  have read := spells.read_append (show Json.IsBlankRun ['\n'] by simp [Json.IsBlankRun])
  rw [isLegible_toRecord, ← spelled] at read
  rw [ofText?]
  cases short : manifest.hasShortCounters with
  | false =>
      rw [short] at read
      cases found : Json.read manifest.stored with
      | error fault => rfl
      | ok value => rw [found] at read; cases read
  | true =>
      rw [short] at read
      cases found : Json.read manifest.stored with
      | error fault => rw [found] at read; cases read
      | ok value =>
          rw [found] at read
          cases read
          dsimp only
          rw [holdsLoneSurrogate_toRecord encodable, read_toRecord]
          rfl

theorem unifyLineEnds_eq_self {text : Text} (noReturn : '\r' ∉ text) :
    Disk.unifyLineEnds text = text := by
  induction text with
  | nil => rfl
  | cons letter text ih =>
      rw [List.mem_cons, not_or] at noReturn
      rw [Disk.unifyLineEnds, ih noReturn.2]
      · exact fun _ same _ => noReturn.1 same.symm
      · exact fun same => noReturn.1 same.symm

/-- The letters of a stored text: none is half of a pair and none a carriage return. -/
theorem stored_letters {manifest : Manifest} (encodable : manifest.IsEncodable) :
    ∀ letter ∈ manifest.stored, IsWhole letter ∧ letter ≠ '\r' := by
  obtain ⟨text, spelled, spells⟩ := exists_stored encodable
  intro letter member
  rw [spelled, List.mem_append] at member
  have written : Json.IsWritten IsWhole letter := by
    rcases member with inside | final
    · exact spells.letters letter inside
    · exact .inl (List.mem_singleton.mp final)
  refine ⟨isWhole_of_isWritten written, ?_⟩
  rintro rfl
  rcases written with same | ⟨visible, _⟩
  · exact absurd same (by decide)
  · exact absurd visible (by decide)

theorem encode_stored {manifest : Manifest} (encodable : manifest.IsEncodable) :
    Utf8.encode manifest.stored = .ok (manifest.stored.flatMap Utf8.encodeChar) :=
  Utf8.encode_eq_ok_iff.mpr ⟨fun letter member => (stored_letters encodable letter member).1, rfl⟩

/-! ## Folders -/

theorem manifestIn_of_encode {manifest : Manifest} (encodable : manifest.IsEncodable)
    {bytes : List UInt8} (encoded : Utf8.encode manifest.stored = .ok bytes) {entries : Folder}
    (found : Keyed.find? Publication.manifestFile entries = some (.file bytes)) :
    Listing.manifestIn entries = .ok (if manifest.hasShortCounters then some manifest else none) := by
  have text : Disk.textOf bytes = .ok manifest.stored := by
    rw [Disk.textOf, Utf8.decodeStrict?_of_encode encoded]
    exact congrArg _ (unifyLineEnds_eq_self fun member => (stored_letters encodable _ member).2 rfl)
  rw [Listing.manifestIn, found]
  change (Disk.textOf _).map _ = _
  rw [text, ← ofText?_stored encodable]
  rfl

theorem manifestAt_of_encode {manifest : Manifest} (encodable : manifest.IsEncodable)
    {bytes : List UInt8} (encoded : Utf8.encode manifest.stored = .ok bytes) {disk : Disk}
    {path : Path} {entries : Folder} (folder : disk.folder? path = .ok (some entries))
    (found : Keyed.find? Publication.manifestFile entries = some (.file bytes)) :
    Listing.manifestAt disk path = .ok (if manifest.hasShortCounters then some manifest else none) := by
  rw [Listing.manifestAt, folder]
  exact manifestIn_of_encode encodable encoded found

/-- A disk with the manifest in a folder. -/
def storedOn (manifest : Manifest) : Disk :=
  ⟨.folder [("pets", .folder [(Publication.manifestFile,
    .file (manifest.stored.flatMap Utf8.encodeChar))])], []⟩

/-- The path of that folder. -/
def storedAt : Path :=
  .ofSteps ["pets"]

/-- A manifest with texts of every kind and counters of every sign. -/
def quoted : Manifest where
  name := "pets"
  title := "\"Pets\" \\ \n\r\t\x01"
  version := ""
  description := none
  sourceUrl := "\x7f\u2028"
  baseUrl := some "https://é.example/😀"
  generatedAt := "2024"
  files := ["client.ts", "\x1f"]
  stats := ⟨-10, 0, 12345678901234567890⟩

/-- The manifest with more operations than it is possible to read. -/
def crowded : Manifest :=
  { quoted with stats := ⟨10 ^ Numeral.greatestLength, 0, 0⟩ }

instance (manifest : Manifest) : Decidable manifest.IsEncodable :=
  decidable_of_iff (manifest.texts.all fun text => text.all fun letter => !isLoneSurrogate letter)
    (by simp [IsEncodable])

end ApiForge.Manifest
