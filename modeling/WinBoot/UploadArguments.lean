import Mathlib.Logic.Unique
import WinBoot.Checks
import WinBoot.WindowsPath

/-! The command line of the PongoOS uploader: which words its `upload` accepts, and which of them it
takes for the payload. -/

namespace WinBoot.UploadArguments
open Checks WindowsPath

inductive Command where
  | validate (payload : String)
  | probe (libusb : String)
  | upload (payload libusb : String)
  | help
deriving DecidableEq

def libusbOption : String := "--libusb"
def confirmOption : String := "--confirm-ram-boot"
def libraryName : Text := "libusb-1.0.dll".toList

/-- The word after the first `option`. -/
def parseOptionPath (args : List String) (option : String) : Except String String :=
  match args.idxOf? option with
  | none => .error s!"missing {option}"
  | some index =>
    match args[index + 1]? with
    | none => .error s!"missing value after {option}"
    | some value => .ok value

def requireAbsoluteDll (path : String) : Except String Unit :=
  if !isAbsolute path.toList then .error "--libusb must be an absolute path"
  else if !eqIgnoreAsciiCase ((fileName path.toList).getD []) libraryName then
    .error "--libusb must point to a file named libusb-1.0.dll"
  else .ok ()

def parseProbe (args : List String) : Except String Command := do
  let libusb ← parseOptionPath args libusbOption
  if args.length ≠ 3 then .error "probe accepts only --libusb <absolute-path>"
  else
    requireAbsoluteDll libusb
    return .probe libusb

def parseUpload (args : List String) : Except String Command :=
  if args.length ≠ 5 then
    .error "upload requires a payload, --libusb path, and --confirm-ram-boot"
  else do
    let payload := args.getD 1 ""
    let libusb ← parseOptionPath args libusbOption
    requireAbsoluteDll libusb
    if !args.any (· = confirmOption) then .error "refusing USB transfer without --confirm-ram-boot"
    else return .upload payload libusb

def parseArgs : List String → Except String Command
  | [] => .ok .help
  | "help" :: _ | "--help" :: _ | "-h" :: _ => .ok .help
  | "validate" :: words =>
    match words with
    | [payload] => .ok (.validate payload)
    | _ => .error "validate requires exactly one payload path"
  | "probe" :: words => parseProbe ("probe" :: words)
  | "upload" :: words => parseUpload ("upload" :: words)
  | other :: _ => .error s!"unknown command: {other}"

/-- An absolute path to a file named `libusb-1.0.dll`. -/
def IsLibrary (path : String) : Prop :=
  isAbsolute path.toList = true ∧
    eqIgnoreAsciiCase ((fileName path.toList).getD []) libraryName = true

theorem requireAbsoluteDll_ok {path : String} :
    requireAbsoluteDll path = .ok () ↔ IsLibrary path := by
  unfold requireAbsoluteDll IsLibrary
  split_ifs <;> simp_all

theorem parseOptionPath_cons {word option : String} {words : List String} (other : word ≠ option) :
    parseOptionPath (word :: words) option = parseOptionPath words option := by
  unfold parseOptionPath
  rw [List.idxOf?_cons]
  cases words.idxOf? option <;> simp [other]

@[simp] theorem parseOptionPath_self (option value : String) (rest : List String) :
    parseOptionPath (option :: value :: rest) option = .ok value := by
  simp [parseOptionPath, List.idxOf?_cons]

theorem parseOptionPath_ok {words : List String} {option value : String} :
    parseOptionPath words option = .ok value ↔
      ∃ before rest, words = before ++ option :: value :: rest ∧ option ∉ before := by
  constructor
  · intro found
    induction words with
    | nil => simp [parseOptionPath] at found
    | cons word words ih =>
      by_cases here : word = option
      · subst here
        cases words with
        | nil => simp [parseOptionPath, List.idxOf?_cons] at found
        | cons next words =>
          rw [parseOptionPath_self] at found
          cases found
          exact ⟨[], words, rfl, by simp⟩
      · rw [parseOptionPath_cons here] at found
        obtain ⟨before, rest, rfl, free⟩ := ih found
        exact ⟨word :: before, rest, rfl, by simp [free, Ne.symm here]⟩
  · rintro ⟨before, rest, rfl, free⟩
    induction before with
    | nil => exact parseOptionPath_self option value rest
    | cons word before ih =>
      have other : word ≠ option := fun same => free (by simp [same])
      rw [List.cons_append, parseOptionPath_cons other]
      exact ih fun member => free (.tail _ member)

theorem IsLibrary.ne_option {path word : String} (library : IsLibrary path)
    (relative : isAbsolute word.toList = false) : path ≠ word := by
  rintro rfl
  rw [library.1] at relative
  cases relative

theorem libusbOption_relative : isAbsolute libusbOption.toList = false := by decide
theorem confirmOption_relative : isAbsolute confirmOption.toList = false := by decide

/-- What follows `upload`, word by word: the payload, the library behind its option, and the
confirmation, in any order of the three. The payload is a word of its own. -/
structure UploadWords (words : List String) (payload libusb : String) : Prop where
  arranged : ∃ groups : List (List String),
    groups.Perm [[payload], [libusbOption, libusb], [confirmOption]] ∧ words = groups.flatten
  library : IsLibrary libusb
  plain : payload ≠ libusbOption ∧ payload ≠ confirmOption

/-- The order that the usage text gives. -/
def documented (payload libusb : String) : List String :=
  [payload, libusbOption, libusb, confirmOption]

/-- Only such words make an upload, of their payload, and the documented order makes one. -/
structure Grammatical (words : List String) : Prop where
  only : ∀ payload libusb, parseArgs ("upload" :: words) = .ok (.upload payload libusb) →
    UploadWords words payload libusb
  accepted : ∀ payload libusb, UploadWords words payload libusb → words = documented payload libusb →
    parseArgs ("upload" :: words) = .ok (.upload payload libusb)

/-- The word taken for the payload is an option that is found there as well. -/
def Misread (words : List String) : Prop :=
  ∃ libusb word, IsLibrary libusb ∧
    (words = [libusbOption, libusb, confirmOption, word] ∨
      words = [libusbOption, libusb, word, confirmOption] ∨
      words = [confirmOption, libusbOption, libusb, word] ∨
      words = [confirmOption, word, libusbOption, libusb] ∧ word ≠ libusbOption)

/-- An upload is made of four words with the option, its library and the confirmation somewhere
among them; the payload is the first word, whatever it is. -/
theorem parseArgs_upload {words : List String} {command : Command} :
    parseArgs ("upload" :: words) = .ok command ↔
      words.length = 4 ∧ ∃ libusb, parseOptionPath words libusbOption = .ok libusb ∧
        IsLibrary libusb ∧ confirmOption ∈ words ∧ command = .upload (words.headD "") libusb := by
  have skip : parseOptionPath ("upload" :: words) libusbOption = parseOptionPath words libusbOption :=
    parseOptionPath_cons (by decide)
  have head : ("upload" :: words).getD 1 "" = words.headD "" := by cases words <;> rfl
  have confirmed : (!("upload" :: words).any (· = confirmOption)) = true ↔ confirmOption ∉ words := by
    have differs : "upload" ≠ confirmOption := by decide
    simp [differs, List.forall_mem_ne']
  change parseUpload ("upload" :: words) = .ok command ↔ _
  unfold parseUpload
  rw [skip, head]
  by_cases length : words.length = 4
  · have enough : ¬ ("upload" :: words).length ≠ 5 := by simp [length]
    rw [if_neg enough, bind_ok]
    simp only [length, true_and]
    refine exists_congr fun libusb => and_congr_right fun _ => ?_
    rw [bind_ok, Unique.exists_iff, requireAbsoluteDll_ok]
    apply and_congr_right
    intro library
    by_cases given : confirmOption ∈ words
    · rw [if_neg (confirmed.not.mpr (not_not.mpr given))]
      simp [given, pure, Except.pure, eq_comm]
    · rw [if_pos (confirmed.mpr given)]
      simp [given]
  · have wrong : ("upload" :: words).length ≠ 5 := by simpa using length
    rw [if_pos wrong]
    simp [length]

/-- Where the library stands among four words decides where the others do. -/
theorem accepted_words {words : List String} {libusb : String} (length : words.length = 4)
    (found : parseOptionPath words libusbOption = .ok libusb) :
    (∃ c d, words = [libusbOption, libusb, c, d]) ∨
      (∃ a d, a ≠ libusbOption ∧ words = [a, libusbOption, libusb, d]) ∨
      ∃ a b, a ≠ libusbOption ∧ b ≠ libusbOption ∧ words = [a, b, libusbOption, libusb] := by
  obtain ⟨before, rest, rfl, free⟩ := parseOptionPath_ok.mp found
  simp only [List.length_append, List.length_cons] at length
  match before, rest, free with
  | [], [c, d], _ => exact .inl ⟨c, d, rfl⟩
  | [a], [d], free =>
    have other : a ≠ libusbOption := by simpa [eq_comm] using free
    exact .inr (.inl ⟨a, d, other, rfl⟩)
  | [a, b], [], free =>
    have others : a ≠ libusbOption ∧ b ≠ libusbOption := by simpa [eq_comm] using free
    exact .inr (.inr ⟨a, b, others.1, others.2, rfl⟩)
  | [], [], _ | [], [_], _ | [], _ :: _ :: _ :: _, _ | [_], [], _ | [_], _ :: _ :: _, _
  | [_, _], _ :: _, _ | _ :: _ :: _ :: _, _, _ => simp at length; try omega

theorem libusbOption_ne_confirmOption : libusbOption ≠ confirmOption := by decide

theorem parseArgs_misread {words : List String} (misread : Misread words) :
    ∃ payload libusb, (payload = libusbOption ∨ payload = confirmOption) ∧
      parseArgs ("upload" :: words) = .ok (.upload payload libusb) := by
  obtain ⟨libusb, word, library, shape⟩ := misread
  have differs := libusbOption_ne_confirmOption
  obtain rfl | rfl | rfl | ⟨rfl, other⟩ := shape
  · refine ⟨libusbOption, libusb, .inl rfl, parseArgs_upload.mpr ⟨rfl, libusb, ?_, library, ?_, rfl⟩⟩
    · exact parseOptionPath_self ..
    · simp
  · refine ⟨libusbOption, libusb, .inl rfl, parseArgs_upload.mpr ⟨rfl, libusb, ?_, library, ?_, rfl⟩⟩
    · exact parseOptionPath_self ..
    · simp
  · refine ⟨confirmOption, libusb, .inr rfl, parseArgs_upload.mpr ⟨rfl, libusb, ?_, library, ?_, rfl⟩⟩
    · rw [parseOptionPath_cons differs.symm, parseOptionPath_self]
    · simp
  · refine ⟨confirmOption, libusb, .inr rfl, parseArgs_upload.mpr ⟨rfl, libusb, ?_, library, ?_, rfl⟩⟩
    · rw [parseOptionPath_cons differs.symm, parseOptionPath_cons other, parseOptionPath_self]
    · simp

/-- Unless an option is taken for the payload, the words accepted are those of the grammar. -/
theorem uploadWords_of_accepted {words : List String} {payload libusb : String}
    (read : ¬ Misread words)
    (accepted : parseArgs ("upload" :: words) = .ok (.upload payload libusb)) :
    UploadWords words payload libusb := by
  obtain ⟨length, found, option, library, confirmed, made⟩ := parseArgs_upload.mp accepted
  obtain ⟨rfl, rfl⟩ := Command.upload.inj made
  have separate : confirmOption ≠ libusb := (library.ne_option confirmOption_relative).symm
  have differs := libusbOption_ne_confirmOption
  obtain ⟨c, d, rfl⟩ | ⟨a, d, other, rfl⟩ | ⟨a, b, other, free, rfl⟩ := accepted_words length option
  · have last : c = confirmOption ∨ d = confirmOption := by
      simpa [differs.symm, separate, eq_comm] using confirmed
    obtain rfl | rfl := last
    · exact absurd ⟨libusb, d, library, .inl rfl⟩ read
    · exact absurd ⟨libusb, c, library, .inr (.inl rfl)⟩ read
  · by_cases first : a = confirmOption
    · subst first
      exact absurd ⟨libusb, d, library, .inr (.inr (.inl rfl))⟩ read
    · have last : confirmOption = d := by
        simpa [differs.symm, separate, Ne.symm first] using confirmed
      subst last
      exact ⟨⟨_, .refl _, rfl⟩, library, other, first⟩
  · by_cases first : a = confirmOption
    · subst first
      exact absurd ⟨libusb, b, library, .inr (.inr (.inr ⟨rfl, free⟩))⟩ read
    · have second : confirmOption = b := by
        simpa [differs.symm, separate, Ne.symm first] using confirmed
      subst second
      refine ⟨⟨[[a], [confirmOption], [libusbOption, libusb]], ?_, rfl⟩, library, other, first⟩
      exact .cons _ (.swap _ _ _)

/-- The command line follows its grammar on exactly the words that are not misread. -/
theorem upload_grammar_iff (words : List String) : Grammatical words ↔ ¬ Misread words := by
  constructor
  · intro grammatical misread
    obtain ⟨payload, libusb, option, accepted⟩ := parseArgs_misread misread
    have plain := (grammatical.only payload libusb accepted).plain
    obtain rfl | rfl := option
    · exact plain.1 rfl
    · exact plain.2 rfl
  · intro read
    refine ⟨fun payload libusb => uploadWords_of_accepted read, ?_⟩
    rintro payload libusb right rfl
    have option : parseOptionPath (documented payload libusb) libusbOption = .ok libusb := by
      rw [documented, parseOptionPath_cons right.plain.1, parseOptionPath_self]
    exact parseArgs_upload.mpr ⟨rfl, libusb, option, right.library, by simp [documented], rfl⟩

/-- The library's option in front: it is the payload too, and the image is no one's word. -/
def optionFirst : List String :=
  ["--libusb", "C:\\tools\\libusb-1.0.dll", "--confirm-ram-boot", "image.bin"]

theorem option_as_payload :
    parseArgs ("upload" :: optionFirst) =
        .ok (.upload "--libusb" "C:\\tools\\libusb-1.0.dll") ∧
      ¬ ∀ words, Grammatical words := by
  have library : IsLibrary "C:\\tools\\libusb-1.0.dll" := ⟨by decide +kernel, by decide +kernel⟩
  have accepted : parseArgs ("upload" :: optionFirst) =
      .ok (.upload "--libusb" "C:\\tools\\libusb-1.0.dll") :=
    parseArgs_upload.mpr ⟨rfl, _, parseOptionPath_self .., library, by decide, rfl⟩
  exact ⟨accepted, fun all => ((all optionFirst).only _ _ accepted).plain.1 rfl⟩

end WinBoot.UploadArguments
