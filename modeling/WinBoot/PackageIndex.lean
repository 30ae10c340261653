import Mathlib.Data.List.Induction
import WinBoot.PackageResolver
import WinBoot.Stanzas

/-! The package index as text: stanzas of one field a line, and what is read of them. -/

namespace WinBoot.PackageIndex
open PackageResolver Stanzas

/-- `[A-Za-z]`. Whatever else it takes when letter case is ignored names no field. -/
def isLetter (c : Char) : Bool := ('A' ≤ c && c ≤ 'Z') || ('a' ≤ c && c ≤ 'z')

/-- `\s` -/
def isSpace (c : Char) : Bool :=
  (9 ≤ c.toNat && c.toNat ≤ 13) || (0x2000 ≤ c.toNat && c.toNat ≤ 0x200a) ||
    [0x20, 0x85, 0xa0, 0x1680, 0x2028, 0x2029, 0x202f, 0x205f, 0x3000].contains c.toNat

/-- The variables of the loop. -/
structure Fields where
  name : Option Text
  version : Option Text
  depends : Text
  provides : Text
deriving DecidableEq

def Fields.none : Fields := ⟨.none, .none, [], []⟩

/-- `-match '^([A-Za-z]):(.*)$'`. The dot takes no line feed, and the end may stand before a last one. -/
def matchField : Text → Option (Char × Text)
  | letter :: ':' :: rest =>
    let value := if rest.getLast? = some '\n' then rest.dropLast else rest
    if isLetter letter && !value.contains '\n' then some (letter, value) else .none
  | _ => .none

/-- The letters are compared with their case. -/
def setField (fields : Fields) (letter : Char) (value : Text) : Fields :=
  if letter = 'P' then { fields with name := some value }
  else if letter = 'V' then { fields with version := some value }
  else if letter = 'D' then { fields with depends := value }
  else if letter = 'p' then { fields with provides := value }
  else fields

def gatherLine (fields : Fields) (line : Text) : Fields :=
  match matchField line with
  | some (letter, value) => setField fields letter value
  | .none => fields

/-- `Where-Object { $_ }` -/
def isFull (word : Text) : Bool := !word.isEmpty

/-- `@($text -split '\s+' | Where-Object { $_ })`: a piece between two whitespaces of one run is
empty. -/
def words (text : Text) : List Text := (text.splitOnP isSpace).filter isFull

/-- `$name -and $version` -/
def finishFields (fields : Fields) : Option Package :=
  match fields.name, fields.version with
  | some name, some version =>
    if name ≠ [] ∧ version ≠ [] then
      some ⟨name, version, words fields.depends, words fields.provides⟩
    else .none
  | _, _ => .none

/-- `$line -eq ''`: a comparison of texts passes over the characters that have no weight. -/
def isBlank (weightless : Char → Bool) (line : Text) : Bool := line.all weightless

/-- A mandatory array parameter takes no empty array. -/
def convertFromA1625ApkIndex (weightless : Char → Bool) (lines : List Text) :
    Except Failure (List Package) :=
  if lines = [] then .error .invalidArgument
  else .ok (readLines (isBlank weightless) .none gatherLine finishFields (lines ++ [[]]))

/-! ### Printing -/

structure Field where
  letter : Char
  value : Text
  single : isLetter letter = true
  bare : '\n' ∉ value

def Field.line (field : Field) : Text := field.letter :: ':' :: field.value

abbrev Stanza : Type := List Field

def printIndex (stanzas : List Stanza) (finalBlank : Bool) : List Text :=
  separated [] (stanzas.map (·.map Field.line)) ++ if finalBlank then [[]] else []

/-- The values of the fields with a letter, in order. -/
def valuesOf (letter : Char) (stanza : Stanza) : List Text :=
  (stanza.filter (·.letter = letter)).map Field.value

/-- Names with a space between them. -/
def joinWords (words : List Text) : Text := [' '].intercalate words

/-- The list is printed once; an empty one may be left out. -/
def PrintsList (letter : Char) (list : List Text) (stanza : Stanza) : Prop :=
  valuesOf letter stanza = [joinWords list] ∨ list = [] ∧ valuesOf letter stanza = []

def IsWord (word : Text) : Prop := word ≠ [] ∧ ∀ c ∈ word, isSpace c = false

theorem isWord_iff (word : Text) :
    IsWord word ↔ word ≠ [] ∧ word.all (fun c => !isSpace c) = true := by
  simp [IsWord]

instance (word : Text) : Decidable (IsWord word) := decidable_of_iff' _ (isWord_iff word)

/-- The stanza has the fields of the package in some order, among others. -/
structure Prints (stanza : Stanza) (package : Package) : Prop where
  named : package.name ≠ []
  versioned : package.version ≠ []
  dependsWords : ∀ word ∈ package.depends, IsWord word
  providesWords : ∀ word ∈ package.provides, IsWord word
  name : valuesOf 'P' stanza = [package.name]
  version : valuesOf 'V' stanza = [package.version]
  depends : PrintsList 'D' package.depends stanza
  provides : PrintsList 'p' package.provides stanza

/-- A stanza prints a package, or lacks a name or a version. -/
inductive Printed (stanza : Stanza) : Option Package → Prop
  | package {package : Package} (prints : Prints stanza package) : Printed stanza (some package)
  | nameless (lacks : ∀ value ∈ valuesOf 'P' stanza, value = []) : Printed stanza .none
  | versionless (lacks : ∀ value ∈ valuesOf 'V' stanza, value = []) : Printed stanza .none

section

variable {stanza : Stanza} {weightless : Char → Bool}

theorem matchField_line (field : Field) :
    matchField field.line = some (field.letter, field.value) := by
  have last : field.value.getLast? ≠ some '\n' := fun ends => field.bare (List.mem_of_getLast? ends)
  have bare : field.value.contains '\n' = false := by simpa using field.bare
  rw [Field.line, matchField]
  simp only [if_neg last, field.single, bare]
  rfl

theorem isBlank_line (letters : ∀ c, isLetter c = true → weightless c = false) (field : Field) :
    isBlank weightless field.line = false := by
  rw [isBlank, Field.line, List.all_cons, letters _ field.single]
  rfl

/-- The value of a letter that counts is the last one. -/
def lastOf (letter : Char) (stanza : Stanza) : Option Text := (valuesOf letter stanza).getLast?

theorem lastOf_snoc (letter : Char) (stanza : Stanza) (field : Field) : lastOf letter (stanza ++ [field]) =
    if field.letter = letter then some field.value else lastOf letter stanza := by
  rw [lastOf, valuesOf, List.filter_append, List.map_append]
  by_cases here : field.letter = letter <;> simp [here, lastOf, valuesOf]

/-- What has been gathered of a stanza. -/
def gathered (stanza : Stanza) : Fields :=
  ⟨lastOf 'P' stanza, lastOf 'V' stanza, (lastOf 'D' stanza).getD [], (lastOf 'p' stanza).getD []⟩

theorem gathered_snoc (stanza : Stanza) (field : Field) :
    gathered (stanza ++ [field]) = setField (gathered stanza) field.letter field.value := by
  rw [gathered, lastOf_snoc, lastOf_snoc, lastOf_snoc, lastOf_snoc, setField]
  by_cases name : field.letter = 'P'
  · simp [name, gathered]
  by_cases version : field.letter = 'V'
  · simp [version, gathered]
  by_cases depends : field.letter = 'D'
  · simp [depends, gathered]
  by_cases provides : field.letter = 'p'
  · simp [provides, gathered]
  · simp [name, version, depends, provides, gathered]

theorem foldl_gathered (stanza : Stanza) :
    (stanza.map Field.line).foldl gatherLine .none = gathered stanza := by
  induction stanza using List.reverseRecOn with
  | nil => rfl
  | append_singleton stanza field ih =>
    rw [List.map_append, List.foldl_append, ih, gathered_snoc]
    refine (?_ : gatherLine (gathered stanza) field.line = _)
    rw [gatherLine, matchField_line]

theorem words_joinWords {list : List Text} (all : ∀ word ∈ list, IsWord word) :
    words (joinWords list) = list := by
  induction list with
  | nil => rfl
  | cons word list ih =>
    obtain ⟨⟨some, bare⟩, later⟩ := List.forall_mem_cons.mp all
    have kept : isFull word = true := by simpa [isFull] using some
    cases list with
    | nil =>
      have whole : joinWords [word] = word := by simp [joinWords]
      rw [words, whole, List.splitOnP_eq_singleton bare]
      exact List.filter_cons_of_pos kept
    | cons next list =>
      have whole : joinWords (word :: next :: list) = word ++ ' ' :: joinWords (next :: list) := by
        simp [joinWords, List.intercalate]
      rw [words, whole, List.splitOnP_append_cons_of_forall_mem bare ' ' rfl]
      exact (List.filter_cons_of_pos kept).trans (congrArg (word :: ·) (ih later))

theorem PrintsList.words {letter : Char} {list : List Text} (prints : PrintsList letter list stanza)
    (all : ∀ word ∈ list, IsWord word) : words ((lastOf letter stanza).getD []) = list := by
  obtain once | ⟨rfl, never⟩ := prints
  · rw [lastOf, once]
    exact words_joinWords all
  · rw [lastOf, never]
    rfl

theorem lastOf_lacks {letter : Char} (lacks : ∀ value ∈ valuesOf letter stanza, value = [])
    {value : Text}
    (last : lastOf letter stanza = some value) : value = [] := lacks value (List.mem_of_getLast? last)

/-- What a stanza gives is the package that it prints. -/
theorem Printed.finish {result : Option Package} (printed : Printed stanza result) :
    finishFields (gathered stanza) = result := by
  cases printed with
  | @package package prints =>
    have name : lastOf 'P' stanza = some package.name := by rw [lastOf, prints.name]; rfl
    have version : lastOf 'V' stanza = some package.version := by rw [lastOf, prints.version]; rfl
    rw [finishFields, gathered, name, version]
    refine (if_pos ⟨prints.named, prints.versioned⟩).trans ?_
    dsimp only
    rw [prints.depends.words prints.dependsWords, prints.provides.words prints.providesWords]
  | nameless lacks =>
    cases name : lastOf 'P' stanza with
    | none => rw [finishFields, gathered, name]
    | some value =>
      have empty := lastOf_lacks lacks name
      rw [finishFields, gathered, name, empty]
      cases lastOf 'V' stanza <;> rfl
  | versionless lacks =>
    cases version : lastOf 'V' stanza with
    | none =>
      rw [finishFields, gathered, version]
      cases lastOf 'P' stanza <;> rfl
    | some value =>
      have empty := lastOf_lacks lacks version
      rw [finishFields, gathered, version, empty]
      cases lastOf 'P' stanza with
      | none => rfl
      | some name => exact if_neg fun both => both.2 rfl

theorem finish_printed {stanzas : List Stanza} {results : List (Option Package)}
    (printed : List.Forall₂ Printed stanzas results) :
    stanzas.filterMap (fun stanza => finishFields (gathered stanza)) = results.filterMap id := by
  induction printed with
  | nil => rfl
  | cons first _ ih => rw [List.filterMap_cons, List.filterMap_cons, first.finish, ih]; rfl

/-- A blank line ends each stanza of a printed index, and what follows the last is empty. -/
theorem printIndex_ended (stanzas : List Stanza) (finalBlank : Bool)
    (any : printIndex stanzas finalBlank ≠ []) :
    ∃ blanks : List Stanza, (∀ stanza ∈ blanks, stanza = []) ∧ printIndex stanzas finalBlank ++ [[]] =
      ((stanzas ++ blanks).map (·.map Field.line)).flatMap (· ++ [[]]) := by
  cases stanzas with
  | nil =>
    cases finalBlank with
    | false => exact absurd rfl any
    | true => exact ⟨[[], []], by simp, rfl⟩
  | cons stanza stanzas =>
    have lines : (stanza :: stanzas).map (·.map Field.line) ≠ [] := List.cons_ne_nil _ _
    have ended := separated_end ([] : Text) lines
    cases finalBlank with
    | false =>
      refine ⟨[], by simp, ?_⟩
      rw [printIndex, List.append_nil, ← ended]
      simp
    | true =>
      refine ⟨[[]], by simp, ?_⟩
      rw [printIndex, List.map_append, List.flatMap_append, ← ended]
      rfl

theorem finish_blanks {blanks : List Stanza} (empty : ∀ stanza ∈ blanks, stanza = []) :
    blanks.filterMap (fun stanza => finishFields (gathered stanza)) = [] := by
  refine List.filterMap_eq_nil_iff.mpr fun stanza member => ?_
  rw [empty stanza member]
  rfl

/-- What is read of a printed index is the packages that its stanzas print, in order, if there is a
line at all. -/
theorem convert_printed (weightless : Char → Bool)
    (letters : ∀ c, isLetter c = true → weightless c = false)
    (stanzas : List Stanza) (results : List (Option Package))
    (printed : List.Forall₂ Printed stanzas results)
    (finalBlank : Bool) (any : printIndex stanzas finalBlank ≠ []) :
    convertFromA1625ApkIndex weightless (printIndex stanzas finalBlank) = .ok (results.filterMap id) := by
  obtain ⟨blanks, empty, ended⟩ := printIndex_ended stanzas finalBlank any
  have full : ∀ lines ∈ (stanzas ++ blanks).map (·.map Field.line), ∀ line ∈ lines,
      isBlank weightless line = false := by
    intro lines member line inside
    obtain ⟨stanza, -, rfl⟩ := List.mem_map.mp member
    obtain ⟨field, -, rfl⟩ := List.mem_map.mp inside
    exact isBlank_line letters field
  have gathers (stanza : Stanza) : finishFields ((stanza.map Field.line).foldl gatherLine .none) =
      finishFields (gathered stanza) := congrArg finishFields (foldl_gathered stanza)
  rw [convertFromA1625ApkIndex, if_neg any, ended, readLines_stanzas rfl full, List.filterMap_map]
  refine congrArg Except.ok ((List.filterMap_congr fun stanza _ => gathers stanza).trans ?_)
  rw [List.filterMap_append, finish_printed printed, finish_blanks empty, List.append_nil]

end

/-- No package and no final blank line make no line, which the parameter does not take. -/
theorem nothing_refused : List.Forall₂ Printed [] [] ∧
    convertFromA1625ApkIndex (fun _ => false) (printIndex [] false) = .error .invalidArgument :=
  ⟨.nil, rfl⟩

/-! Two packages, and between them a stanza without a name. -/

def muslPackage : Package := ⟨"musl".toList, "1.2.5-r21".toList, [], ["so:libc.musl-aarch64.so.1=1".toList]⟩

def gitPackage : Package :=
  ⟨"git".toList, "2.52.0-r0".toList, ["so:libc.musl-aarch64.so.1".toList, "zlib".toList], []⟩

def sampleIndex : List Stanza :=
  [[⟨'C', "Q1x".toList, by decide, by decide⟩, ⟨'P', muslPackage.name, by decide, by decide⟩,
      ⟨'V', muslPackage.version, by decide, by decide⟩,
      ⟨'p', joinWords muslPackage.provides, by decide, by decide⟩],
    [⟨'V', "9.9".toList, by decide, by decide⟩, ⟨'D', "ghost".toList, by decide, by decide⟩],
    [⟨'v', "0.1".toList, by decide, by decide⟩, ⟨'p', [], by decide, by decide⟩,
      ⟨'D', joinWords gitPackage.depends, by decide, by decide⟩,
      ⟨'V', gitPackage.version, by decide, by decide⟩, ⟨'P', gitPackage.name, by decide, by decide⟩,
      ⟨'d', "lost".toList, by decide, by decide⟩]]

def zeroWidth (c : Char) : Bool := c.toNat = 0x200b

theorem sampleIndex_read : convertFromA1625ApkIndex zeroWidth (printIndex sampleIndex true) =
    .ok [muslPackage, gitPackage] := by
  have letters : ∀ c, isLetter c = true → zeroWidth c = false := by
    intro c letter
    refine decide_eq_false fun code => ?_
    have high : c = Char.ofNat 0x200b := by rw [← code, Char.ofNat_toNat]
    exact absurd (high ▸ letter) (by decide)
  have printed : List.Forall₂ Printed sampleIndex [some muslPackage, none, some gitPackage] := by
    refine .cons (.package ?_) (.cons (.nameless ?_) (.cons (.package ?_) .nil))
    · exact ⟨by decide, by decide, by decide, by decide, rfl, rfl, .inr ⟨rfl, rfl⟩,
        .inl rfl⟩
    · exact fun value member => absurd member List.not_mem_nil
    · exact ⟨by decide, by decide, by decide, by decide, rfl, rfl, .inl rfl,
        .inl rfl⟩
  exact convert_printed zeroWidth letters sampleIndex _ printed true (List.cons_ne_nil _ _)

end WinBoot.PackageIndex
