import EndpointDocs.Config
import EndpointDocs.Proofs.Text.CodePoint

/-!
The texts of a configuration. Whatever file it was loaded from, each of its texts says something and
has no blanks around it, so that none is an empty comment marker, and a comment that is trimmed can
start with a sentinel.
-/
namespace EndpointDocs

namespace Config

/-- A text that is not empty and has no blanks at its ends. -/
structure Tidy (text : Wide) : Prop where
  nonempty : text ≠ []
  trimmed : Text.IsTrimmed CodePoint.isBlank text

/-- The texts that a configuration requires. -/
def texts (config : Config) : List Wide :=
  [config.indexFilename, config.version, config.style, config.sentinels.marker,
    config.sentinels.opening, config.sentinels.closing]

theorem tidy_standard : ∀ text ∈ ({} : Config).texts, Tidy text := by
  have checked : ∀ text ∈ ({} : Config).texts, text ≠ [] ∧
      text.head?.all (fun point => !point.isBlank) = true ∧
      text.getLast?.all (fun point => !point.isBlank) = true := by decide
  intro text listed
  obtain ⟨nonempty, start, stop⟩ := checked text listed
  rw [Option.all_eq_true] at start stop
  exact ⟨nonempty, fun point isFirst => by simpa using start point isFirst,
    fun point isLast => by simpa using stop point isLast⟩

theorem tidy_of_trimmedText {value : Setting} {text : Wide}
    (done : trimmedText value = .ok text) (nonempty : text ≠ []) : Tidy text := by
  unfold trimmedText at done
  split at done
  · cases done
    exact ⟨nonempty, Text.trimBy_isTrimmed CodePoint.isBlank _⟩
  · cases done

/-- A text that is there has been trimmed and found not to be empty. -/
theorem tidy_of_optionalText {value : Setting} {text : Wide}
    (done : optionalText value = .ok (some text)) : Tidy text := by
  unfold optionalText at done
  split at done
  · cases done
  · cases plain : trimmedText value with
    | error error => simp [plain, Except.map] at done
    | ok trimmed =>
      simp only [plain, Except.map, Except.ok.injEq] at done
      split at done
      · cases done
      · rename_i notEmpty
        cases done
        exact tidy_of_trimmedText plain (by simpa using notEmpty)

/-- A text that is required is tidy, if the standard one is. -/
theorem tidy_of_textAt {members : List (Setting × Setting)} {key : String} {standard text : Wide}
    (standardTidy : Tidy standard) (done : textAt members key standard = .ok text) : Tidy text := by
  unfold textAt requiredText at done
  split at done
  · cases done
    exact standardTidy
  · split at done
    · cases done
    · rename_i given
      cases done
      exact tidy_of_optionalText given
    · cases done

theorem bind_ok {α β : Type} {step : Except ConfigError α} {next : α → Except ConfigError β}
    {result : β} (done : (step >>= next) = .ok result) :
    ∃ value, step = .ok value ∧ next value = .ok result := by
  cases step with
  | error error => cases done
  | ok value => exact ⟨value, rfl, done⟩

/-- A configuration that is read has no text that is empty or has blanks at its ends. -/
theorem tidy_of_ofMapping {homes : Homes} {base : Path} {members : List (Setting × Setting)}
    {config : Config}
    (done : ofMapping homes base members = .ok config) : ∀ text ∈ config.texts, Tidy text := by
  unfold ofMapping at done
  obtain ⟨extensions, -, done⟩ := bind_ok done
  obtain ⟨exclude, -, done⟩ := bind_ok done
  obtain ⟨glossary, -, done⟩ := bind_ok done
  obtain ⟨typeModules, -, done⟩ := bind_ok done
  dsimp only at done
  split at done
  · cases done
  · obtain ⟨outputDirectory, -, done⟩ := bind_ok done
    obtain ⟨indexFilename, indexRead, done⟩ := bind_ok done
    obtain ⟨version, versionRead, done⟩ := bind_ok done
    obtain ⟨style, styleRead, done⟩ := bind_ok done
    obtain ⟨marker, markerRead, done⟩ := bind_ok done
    obtain ⟨opening, openingRead, done⟩ := bind_ok done
    obtain ⟨closing, closingRead, done⟩ := bind_ok done
    obtain ⟨paths, -, done⟩ := bind_ok done
    cases done
    have standard := tidy_standard
    simp only [texts, List.forall_mem_cons] at standard ⊢
    obtain ⟨index, versionStandard, styleStandard, markerStandard, openingStandard,
      closingStandard, none⟩ := standard
    exact ⟨tidy_of_textAt index indexRead, tidy_of_textAt versionStandard versionRead,
      tidy_of_textAt styleStandard styleRead, tidy_of_textAt markerStandard markerRead,
      tidy_of_textAt openingStandard openingRead, tidy_of_textAt closingStandard closingRead, none⟩

/-- The texts of a loaded configuration are tidy, also those that no file sets. -/
theorem tidy_of_load {tree : Tree} {homes : Homes} {path : Option Path} {config : Config}
    (loaded : load tree homes path = .ok config) : ∀ text ∈ config.texts, Tidy text := by
  unfold load at loaded
  split at loaded
  · cases loaded
    exact tidy_standard
  · split at loaded
    · cases loaded
    · cases loaded
      exact tidy_standard
    · split at loaded
      · cases loaded
      · split at loaded
        · cases loaded
        · exact tidy_of_ofMapping loaded

end Config

/-- The user's own home directory, where no other account has one. -/
def Homes.only (own : Path) : Homes :=
  ⟨own, fun _ => none⟩

end EndpointDocs
