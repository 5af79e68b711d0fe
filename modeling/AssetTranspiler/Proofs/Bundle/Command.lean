import AssetTranspiler.Bundle.Build
import AssetTranspiler.Proofs.Command.Ending
import AssetTranspiler.Proofs.Command.Spelling

namespace AssetTranspiler.Bundle

open Command

variable (settings : Settings) (output : String) (source : Option String)

theorem command_eq_error_iff {e : Problem} :
    command settings output source = .error e ↔ Ends settings.buildCommand.toList (some e) := by
  rw [command, map_eq_error_iff, words_eq_error_iff]

theorem exists_error_iff :
    (∃ e, command settings output source = .error e) ↔
      EndsEscaping settings.buildCommand.toList ∨ EndsQuoted settings.buildCommand.toList := by
  simp only [command_eq_error_iff, ← ends_escaping_iff, ← ends_quoted_iff]
  constructor
  · rintro ⟨_ | _, h⟩
    · exact .inr h
    · exact .inl h
  · rintro (h | h)
    · exact ⟨_, h⟩
    · exact ⟨_, h⟩

theorem exists_message_iff {message : String} {e : Problem} (h : ∀ d, d.message = message ↔ d = e) :
    (∃ d, command settings output source = .error d ∧ d.message = message) ↔
      Ends settings.buildCommand.toList (some e) := by
  simp only [h, exists_eq_right, command_eq_error_iff]

/-- A configured command whose words are quoted is followed by the tool's own options, the source and
the file to write; a command that ends too early is refused for what it ends in. -/
theorem command_arguments :
    (∀ words, Spells words settings.buildCommand.toList →
      command settings output source = .ok (words ++
        ["--log-level=warning", "--bundle", "--external:fs",
          "--define:process=\x7b\"env\":\x7b\x7d\x7d",
          (source.filter (· ≠ "")).getD settings.bundleSource, "--outfile=" ++ output])) ∧
      ((∃ e, command settings output source = .error e) ↔
        EndsEscaping settings.buildCommand.toList ∨ EndsQuoted settings.buildCommand.toList) ∧
      ((∃ e, command settings output source = .error e ∧ e.message = "No escaped character") ↔
        EndsEscaping settings.buildCommand.toList) ∧
      ((∃ e, command settings output source = .error e ∧ e.message = "No closing quotation") ↔
        EndsQuoted settings.buildCommand.toList) := by
  refine ⟨?_, exists_error_iff settings output source, ?_, ?_⟩
  · intro words h
    rw [command, words_of_spells h, orElse_eq]
    simp [Except.map, fixedOptions]
  · rw [← ends_escaping_iff]
    exact exists_message_iff _ _ _ (by rintro (_ | _) <;> decide)
  · rw [← ends_quoted_iff]
    exact exists_message_iff _ _ _ (by rintro (_ | _) <;> decide)

theorem command_arguments_quoted :
    Spells ["it's", "", "a\\ b"] "'it'\"'\"'s' \t''\n'a\\ b'".toList ∧
      command
        { appRoot := "/", buildCommand := "'it'\"'\"'s' \t''\n'a\\ b'" } "o\"ut" (some "") =
        .ok ["it's", "", "a\\ b", "--log-level=warning", "--bundle", "--external:fs",
          "--define:process=\x7b\"env\":\x7b\x7d\x7d", "app/assets/javascripts/js-processor.js",
          "--outfile=o\"ut"] := by
  have h : Spells ["it's", "", "a\\ b"] "'it'\"'\"'s' \t''\n'a\\ b'".toList := by
    have htext : "'it'\"'\"'s' \t''\n'a\\ b'".toList =
        quote "it's".toList ++ ([' ', '\t'] ++ (quote "".toList ++ (['\n'] ++
          quote "a\\ b".toList))) := by
      decide +kernel
    rw [htext]
    exact .more _ (by simp) (by simp) (.more _ (by simp) (by simp) (.one _))
  refine ⟨h, ?_⟩
  rw [(command_arguments
    { appRoot := "/", buildCommand := "'it'\"'\"'s' \t''\n'a\\ b'" } "o\"ut" (some "")).1 _ h]
  simp [Option.filter]

end AssetTranspiler.Bundle
