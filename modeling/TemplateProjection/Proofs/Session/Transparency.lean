import TemplateProjection.Proofs.Projection.Transparent

/-!
# A session's memo does not show

Every command of a session gives the result and the notices that it would give in a session of its own, whatever went
before it and however it failed; and it leaves the memo that it found, joined with the memo of such a session
(`session_answers`). At all times an entry of the memo is the indentation of its level.
-/

namespace TemplateProjection

open Run

variable {o : Options}

/-- The outcome of a command on the memo `before` is that of the command in a session of its own. -/
structure Command.AnswersAfresh (o : Options) (c : Command) (before : Memo) (out : Outcome (Option String)) : Prop where
  result : out.result = (c.run o).fresh.result
  log : out.log = (c.run o).fresh.log
  memo : c ≠ .clear → out.memo = before.union (c.run o).touched
  cleared : c = .clear → out.memo = .empty

theorem Command.answersAfresh (c : Command) {m : Memo} (hm : m.Sound o) :
    c.AnswersAfresh o m ((c.run o).run m) := by
  by_cases hc : c = .clear
  · subst hc
    exact ⟨rfl, rfl, fun h => absurd rfl h, fun _ => rfl⟩
  · rw [(run_transparent hc).run_eq hm]
    exact ⟨rfl, rfl, fun _ => rfl, fun h => absurd h hc⟩

/-- A command on a sound memo leaves a sound one. -/
theorem Command.run_sound (c : Command) {m : Memo} (hm : m.Sound o) : ((c.run o).run m).memo.Sound o := by
  by_cases hc : c = .clear
  · subst hc
    exact Memo.sound_empty
  · rw [(run_transparent hc).run_eq hm]
    exact hm.union (run_transparent hc).sound

/-! ## Sessions -/

/-- The memos of a session: the one it starts on, and the one that each command leaves. -/
def sessionMemos (o : Options) (commands : List Command) (m : Memo) : List Memo :=
  m :: (runSession o commands m).map Outcome.memo

theorem sessionMemos_cons (o : Options) (c : Command) (rest : List Command) (m : Memo) :
    sessionMemos o (c :: rest) m = m :: sessionMemos o rest ((c.run o).run m).memo := rfl

theorem length_runSession (o : Options) : ∀ (commands : List Command) (m : Memo),
    (runSession o commands m).length = commands.length
  | [], _ => rfl
  | c :: rest, m => congrArg (· + 1) (length_runSession o rest ((c.run o).run m).memo)

theorem sessionMemos_sound : ∀ (commands : List Command) {m : Memo}, m.Sound o →
    ∀ n ∈ sessionMemos o commands m, n.Sound o
  | [], m, hm, n, hn => by
    rw [List.mem_singleton.1 hn]
    exact hm
  | c :: rest, m, hm, n, hn => by
    rw [sessionMemos_cons] at hn
    rcases List.mem_cons.1 hn with rfl | hn
    · exact hm
    · exact sessionMemos_sound rest (c.run_sound hm) n hn

/-- On a sound memo, every command of a session answers as in a session of its own. -/
theorem runSession_answersAfresh : ∀ (commands : List Command) {m : Memo}, m.Sound o →
    ∀ (i : Nat) (c : Command) (before : Memo) (out : Outcome (Option String)), commands[i]? = some c →
      (sessionMemos o commands m)[i]? = some before → (runSession o commands m)[i]? = some out →
        c.AnswersAfresh o before out
  | [], _, _, _, _, _, _, hc, _, _ => by simp at hc
  | c :: rest, m, hm, 0, d, before, out, hc, hbefore, hout => by
    obtain rfl := Option.some.inj hc
    obtain rfl := Option.some.inj hbefore
    obtain rfl := Option.some.inj hout
    exact c.answersAfresh hm
  | c :: rest, m, hm, i + 1, d, before, out, hc, hbefore, hout => by
    rw [sessionMemos_cons, List.getElem?_cons_succ] at hbefore
    rw [List.getElem?_cons_succ] at hc
    exact runSession_answersAfresh rest (c.run_sound hm) i d before out hc hbefore hout

/-- **A session's memo does not show.** There is an outcome for every command. At all times the entries of the memo are
the indentations of their levels. The outcome at index `i`, on the memo that the commands before it left, is that of
the command in a session of its own. -/
theorem session_answers (o : Options) (commands : List Command) :
    (runSession o commands .empty).length = commands.length ∧
    (∀ m ∈ sessionMemos o commands .empty, ∀ e ∈ m.entries, e.2 = spaces (o.indentWidth * e.1)) ∧
    ∀ (i : Nat) (c : Command) (before : Memo) (out : Outcome (Option String)), commands[i]? = some c →
      (sessionMemos o commands .empty)[i]? = some before → (runSession o commands .empty)[i]? = some out →
        c.AnswersAfresh o before out :=
  ⟨length_runSession o commands .empty, sessionMemos_sound commands Memo.sound_empty,
    runSession_answersAfresh commands Memo.sound_empty⟩

/-- A control without code fails one level in; the indentation it asked for is remembered, and the next command is
answered from it. -/
theorem session_answers_after_failure :
    let bad := Value.node (.construct (.known .control) .null .null)
    let commands := [Command.project bad 1 false, .indentation 1]
    ∃ before out, (sessionMemos {} commands .empty)[1]? = some before ∧ before.entries = [(1, "  ")] ∧
      (runSession {} commands .empty)[1]? = some out ∧ out.result = .ok (some "  ") ∧
      (Command.indentation 1).AnswersAfresh {} before out := by
  intro bad commands
  exact ⟨_, _, rfl, rfl, rfl, rfl, (session_answers {} commands).2.2 1 _ _ _ rfl rfl rfl⟩

end TemplateProjection
