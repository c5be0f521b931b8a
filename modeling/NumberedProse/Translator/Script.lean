import NumberedProse.Translator.Echo

/-!
# Scripted translators

A translator that follows a script for some lines and echoes all others, and that keeps the
requests it got.  It stands in for a real translator where failures and cancellations are to be
rehearsed.
-/

namespace NumberedProse

/-- What a script has the translator do on a line. -/
inductive TranslatorAct where
  /-- Fail. -/
  | fail (error : TranslateError)
  /-- Answer these statements. -/
  | answer (statements : List String)
  /-- Cancel the compilation, and echo. -/
  | cancel
deriving Repr, DecidableEq

/-- **The translator of a script.**  Its state is the list of requests, oldest first. -/
def Translator.scripted (script : List (LineNumber × TranslatorAct)) : Translator (List Request) :=
  fun seen request =>
    let seen := seen ++ [request]
    match script.lookup request.line.number with
    | some (.fail error) => ⟨.error error, false, seen⟩
    | some (.answer statements) => ⟨.ok statements, false, seen⟩
    | some .cancel => ⟨.ok request.echo, true, seen⟩
    | none => ⟨.ok request.echo, false, seen⟩

end NumberedProse
