import Mathlib.Data.List.Basic
import Mathlib.Data.List.Infix
import ScionEcho.Log.Logging

/-!
# The tree of loggers

Which loggers stand above a logger depends on its name and on the loggers that have been made. A
logger that has been made stands above every logger whose name goes on behind its own with a
point. The exception are names that go on with two points: the first of them may be passed over,
and it depends on the other loggers whether it is.
-/

namespace ScionEcho.Logging

variable {l : Logging} {q name logger : String}

/-- A logger has the given name, or one that goes on behind it with a point. -/
def Within (q logger : String) : Prop := logger = q ∨ q.toList ++ ['.'] <+: logger.toList

/-- A name goes on behind the given one with two points. -/
def Doubled (q logger : String) : Prop := q.toList ++ ['.', '.'] <+: logger.toList

instance (q logger : String) : Decidable (Within q logger) := inferInstanceAs (Decidable (_ ∨ _))

instance (q logger : String) : Decidable (Doubled q logger) :=
  inferInstanceAs (Decidable (_ <+: _))

/-! ### Cutting names -/

section

variable {made : List Char → Bool} {cs ys : List Char}

/-- What a name is cut down to stands in it in front of a point. -/
lemma suffix_of_mem_above (h : ys ∈ above made cs) : '.' :: ys <:+ cs := by
  induction cs using above.induct made with
  | case1 => simp [above] at h
  | case2 c rest hmade ih =>
    rw [above, if_pos hmade, List.mem_cons] at h
    rcases h with rfl | h
    · exact List.suffix_refl _
    · exact (ih h).trans (List.suffix_cons _ _)
  | case3 c rest hmade ih =>
    rw [above, if_neg hmade] at h
    exact (ih h).trans ((List.suffix_cons _ _).trans (List.suffix_cons _ _))
  | case4 c rest hother ih =>
    rw [above] at h
    · exact (ih h).trans (List.suffix_cons _ _)
    · exact hother

/-- A cut at a point is not passed over, unless another point follows. -/
lemma mem_above_of_suffix (hmade : made ys = true) (hne : ys ≠ []) (hpoint : '.' :: ys <:+ cs)
    (hsingle : ¬ '.' :: '.' :: ys <:+ cs) : ys ∈ above made cs := by
  induction cs using above.induct made with
  | case1 => simp at hpoint
  | case2 c rest hcut ih =>
    rw [above, if_pos hcut, List.mem_cons]
    rw [List.suffix_cons_iff] at hpoint hsingle
    rcases hpoint with heq | hpoint
    · exact .inl (List.tail_eq_of_cons_eq heq)
    · exact .inr (ih hpoint fun hdouble => hsingle (.inr hdouble))
  | case3 c rest hcut ih =>
    rw [above, if_neg hcut]
    rw [List.suffix_cons_iff] at hpoint hsingle
    rw [not_or] at hsingle
    -- neither is `ys` in front of this point, since it is made, nor in front of the one passed over
    rcases hpoint with heq | hpoint
    · obtain rfl := List.tail_eq_of_cons_eq heq
      exact absurd hmade hcut
    rw [List.suffix_cons_iff] at hpoint
    rcases hpoint with heq | hpoint
    · exact absurd (congrArg ('.' :: ·) heq) hsingle.1
    · exact ih hpoint fun hdouble => hsingle.2 (hdouble.trans (List.suffix_cons _ _))
  | case4 c rest hother ih =>
    rw [above]
    · rw [List.suffix_cons_iff] at hpoint hsingle
      rcases hpoint with heq | hpoint
      · obtain ⟨x, xs, rfl⟩ := List.exists_cons_of_ne_nil hne
        cases heq
        exact absurd rfl (hother x xs rfl)
      · exact ih hpoint fun hdouble => hsingle (.inr hdouble)
    · exact hother

end

/-! ### Above a logger -/

/-- Only names behind which the name of a logger goes on stand above it. -/
lemma within_of_mem_lineage (h : name ∈ l.lineage logger) : Within name logger := by
  rw [lineage, List.mem_cons] at h
  rcases h with rfl | h
  · exact .inl rfl
  · obtain ⟨cs, hcs, rfl⟩ := List.mem_map.mp h
    refine .inr ?_
    rw [String.toList_ofList, ← List.reverse_suffix]
    simpa using suffix_of_mem_above hcs

/-- A logger that has been made stands above those within it, whatever other loggers there are. -/
lemma mem_lineage_of_within (hmade : q ∈ l.loggers) (hne : q ≠ "") (h : Within q logger)
    (hsingle : ¬ Doubled q logger) : q ∈ l.lineage logger := by
  rw [lineage, List.mem_cons]
  rcases h with rfl | h
  · exact .inl rfl
  · refine .inr (List.mem_map.mpr ⟨q.toList.reverse, ?_, by simp⟩)
    apply mem_above_of_suffix
    · simpa [isMade] using hmade
    · simpa using hne
    · simpa using List.reverse_suffix.mpr h
    · intro hdouble
      apply hsingle
      rw [Doubled, ← List.reverse_suffix]
      simpa using hdouble

lemma Doubled.within (h : Doubled q logger) : Within q logger := by
  refine .inr (List.IsPrefix.trans ?_ h)
  exact ⟨['.'], by simp⟩

/-- The names of a logger and of what it is within start with the same character. -/
lemma Within.head?_eq (h : Within q logger) (hne : q ≠ "") :
    logger.toList.head? = q.toList.head? := by
  rcases h with rfl | ⟨rest, hrest⟩
  · rfl
  · rw [← hrest, List.append_assoc, List.head?_append_of_ne_nil]
    simpa using hne

lemma ne_empty_of_mem_quietLoggers (hq : q ∈ quietLoggers) : q ≠ "" := by
  rintro rfl
  simp [quietLoggers] at hq

/-- No logger is within the main logger and within a quiet one. -/
lemma not_within_mainLogger (hq : q ∈ quietLoggers) (h : Within q logger) :
    ¬ Within mainLogger logger := by
  intro hmain
  have hheads : q.toList.head? = mainLogger.toList.head? := by
    rw [← h.head?_eq (ne_empty_of_mem_quietLoggers hq), hmain.head?_eq (by decide)]
  simp only [quietLoggers, List.mem_cons, List.not_mem_nil, or_false] at hq
  rcases hq with rfl | rfl <;> exact absurd hheads (by decide)

/-! ### Levels -/

lemma lookup_cons_of_ne {α β : Type} [BEq α] [LawfulBEq α] {key other : α} (h : key ≠ other)
    (value : β) (table : List (α × β)) :
    ((other, value) :: table).lookup key = table.lookup key := by
  rw [List.lookup_cons, beq_eq_false_iff_ne.mpr h]

lemma lookup_filter_of_ne {levels : List (String × Level)} (h : name ≠ logger) :
    (levels.filter (·.1 ≠ logger)).lookup name = levels.lookup name := by
  induction levels with
  | nil => rfl
  | cons entry levels ih =>
    obtain ⟨other, level⟩ := entry
    by_cases hother : other = logger
    · rw [List.filter_cons_of_neg (by simpa using hother), ih,
        lookup_cons_of_ne (by rwa [hother])]
    · rw [List.filter_cons_of_pos (by simpa using hother), List.lookup_cons, List.lookup_cons, ih]

lemma levelOf_setLevel (l : Logging) (logger name : String) (level : Level) :
    (l.setLevel logger level).levelOf name = if name = logger then level else l.levelOf name := by
  rw [levelOf, setLevel]
  split_ifs with h
  · rw [h, List.lookup_cons_self, Option.getD_some]
  · rw [lookup_cons_of_ne h, lookup_filter_of_ne h, levelOf]

/-- No logger but the main one and the quiet ones has a level of its own. -/
def Bare (l : Logging) : Prop :=
  ∀ name, name ≠ mainLogger → name ∉ quietLoggers → l.levelOf name = .notset

/-- The levels are those of a setup, and the loggers that have one have been made. -/
structure Levelled (level : Level) (l : Logging) : Prop where
  root : l.root = level
  main : l.levelOf mainLogger = level
  quiet : ∀ q ∈ quietLoggers, l.levelOf q = .warning
  bare : l.Bare
  made : ∀ q ∈ quietLoggers, q ∈ l.loggers

/-- What a record of a logger has to reach: the level of the root, and within a quiet logger that of
warnings. Behind two points either of them may hold. -/
inductive Bar (level : Level) (logger : String) : Level → Prop
  | root (hout : ∀ q ∈ quietLoggers, ¬ Within q logger) : Bar level logger level
  | quiet {q : String} (hq : q ∈ quietLoggers) (hin : Within q logger) : Bar level logger .warning
  | doubled {q : String} (hq : q ∈ quietLoggers) (hin : Doubled q logger) : Bar level logger level

/-- The first thing found is the only one that can be found, or there is none. -/
lemma getD_find?_eq {α : Type} {p : α → Bool} {xs : List α} {a b : α}
    (honly : ∀ x ∈ xs, p x = true → x = a) (hfound : b = a ∨ ∃ x ∈ xs, p x = true) :
    (xs.find? p).getD b = a := by
  cases h : xs.find? p with
  | some x => exact honly x (List.mem_of_find?_eq_some h) (List.find?_some h)
  | none =>
    rcases hfound with rfl | ⟨x, hx, hp⟩
    · rfl
    · exact absurd hp (List.find?_eq_none.mp h x hx)

variable {level : Level}

lemma Levelled.main_or_quiet (h : Levelled level l) (hset : l.levelOf name ≠ .notset) :
    name = mainLogger ∨ name ∈ quietLoggers := by
  by_contra hother
  rw [not_or] at hother
  exact hset (h.bare name hother.1 hother.2)

/-- The level that is found for a logger is one that it may have to reach. -/
lemma Levelled.bar (h : Levelled level l) (logger : String) :
    Bar level logger (l.effectiveLevel logger) := by
  by_cases hquiet : ∃ q ∈ quietLoggers, q ∈ l.lineage logger
  · obtain ⟨q, hq, hmem⟩ := hquiet
    have hin : Within q logger := within_of_mem_lineage hmem
    -- the main logger cannot stand above as well, so any level that is found is that of warnings
    have hlevel : l.effectiveLevel logger = .warning := by
      refine getD_find?_eq ?_ (.inr ⟨.warning, List.mem_map.mpr ⟨q, hmem, h.quiet q hq⟩, by decide⟩)
      intro found hfound hset
      obtain ⟨name, hname, rfl⟩ := List.mem_map.mp hfound
      rcases h.main_or_quiet (by simpa using hset) with rfl | hother
      · exact absurd (within_of_mem_lineage hname) (not_within_mainLogger hq hin)
      · exact h.quiet name hother
    rw [hlevel]
    exact .quiet hq hin
  · have hlevel : l.effectiveLevel logger = level := by
      refine getD_find?_eq ?_ (.inl h.root)
      intro found hfound hset
      obtain ⟨name, hname, rfl⟩ := List.mem_map.mp hfound
      rcases h.main_or_quiet (by simpa using hset) with rfl | hother
      · exact h.main
      · exact absurd ⟨name, hother, hname⟩ hquiet
    rw [hlevel]
    by_cases hin : ∃ q ∈ quietLoggers, Within q logger
    · -- the quiet logger has been made, so only a second point keeps it from standing above
      obtain ⟨q, hq, hin⟩ := hin
      refine .doubled hq ?_
      by_contra hsingle
      exact hquiet ⟨q, hq,
        mem_lineage_of_within (h.made q hq) (ne_empty_of_mem_quietLoggers hq) hin hsingle⟩
    · exact .root fun q hq hwithin => hin ⟨q, hq, hwithin⟩

/-! ### Decisions -/

/-- What has been decided agrees with a level that the logger may have to reach. -/
structure Settled (level : Level) (l : Logging) : Prop extends Levelled level l where
  decided : ∀ logger reached passed, l.decided.lookup (logger, reached) = some passed →
    ∃ bar, Bar level logger bar ∧ (passed = true ↔ 0 < reached ∧ bar ≤ reached)

/-- Whether a record passes is decided by a level that its logger may have to reach. -/
lemma Settled.exists_bar (h : Settled level l) (r : LogRecord) :
    ∃ bar, Bar level r.logger bar ∧ (l.passes r = true ↔ 0 < r.level ∧ bar ≤ r.level) := by
  rw [passes]
  cases hlookup : l.decided.lookup (r.logger, r.level) with
  | some passed =>
    rw [Option.getD_some]
    exact h.decided r.logger r.level passed hlookup
  | none =>
    refine ⟨l.effectiveLevel r.logger, h.bar r.logger, ?_⟩
    simp [isEnabledFor]

/-- A record leaves the levels as they are, and what was decided for it may be kept. -/
lemma Settled.after (h : Settled level l) (r : LogRecord) : Settled level (l.after r) where
  root := h.root
  main := h.main
  quiet := h.quiet
  bare := h.bare
  made q hq := List.mem_cons_of_mem _ (h.made q hq)
  decided logger reached passed hlookup := by
    by_cases heq : (logger, reached) = (r.logger, r.level)
    · cases heq
      rw [Logging.after, List.lookup_cons_self, Option.some.injEq] at hlookup
      rw [← hlookup]
      exact h.exists_bar r
    · rw [Logging.after, lookup_cons_of_ne heq] at hlookup
      exact h.decided logger reached passed hlookup

/-! ### Setups -/

lemma levelOf_foldl_setLevel (loggers : List String) (l : Logging) (name : String) (level : Level) :
    (loggers.foldl (fun l logger => l.setLevel logger level) l).levelOf name =
      if name ∈ loggers then level else l.levelOf name := by
  induction loggers generalizing l with
  | nil => simp
  | cons logger loggers ih =>
    rw [List.foldl_cons, ih, levelOf_setLevel]
    by_cases hmem : name ∈ loggers
    · simp [hmem]
    · simp [hmem, List.mem_cons]

lemma mem_loggers_foldl_setLevel (loggers : List String) (l : Logging) (level : Level)
    (h : name ∈ loggers ∨ name ∈ l.loggers) :
    name ∈ (loggers.foldl (fun l logger => l.setLevel logger level) l).loggers := by
  induction loggers generalizing l with
  | nil => simpa using h
  | cons logger loggers ih =>
    rw [List.foldl_cons]
    apply ih
    rw [setLevel, List.mem_cons]
    rw [List.mem_cons, or_assoc] at h
    rcases h with hname | hname | hname
    · exact .inr (.inl hname)
    · exact .inl hname
    · exact .inr (.inr hname)

/-- Nothing that was decided before a level is set is kept. -/
lemma decided_foldl_setLevel (loggers : List String) (l : Logging) (level : Level)
    (h : l.decided = []) :
    (loggers.foldl (fun l logger => l.setLevel logger level) l).decided = [] := by
  induction loggers generalizing l with
  | nil => exact h
  | cons logger loggers ih => exact ih _ rfl

/-- A setup supersedes the levels of an earlier one. -/
lemma levelOf_setup (l : Logging) (c : LogSettings) (given : Option Level) (opened : Bool)
    (name : String) :
    (l.setup c given opened).levelOf name =
      if name ∈ quietLoggers then .warning
      else if name = mainLogger then setupLevel c given else l.levelOf name := by
  rw [setup, levelOf_foldl_setLevel, levelOf_setLevel]
  rfl

lemma settled_setup (h : l.Bare) (c : LogSettings) (given : Option Level) (opened : Bool) :
    Settled (setupLevel c given) (l.setup c given opened) where
  root := root_setup l c given opened
  main := by rw [levelOf_setup, if_neg (by decide), if_pos rfl]
  quiet q hq := by rw [levelOf_setup, if_pos hq]
  bare name hmain hquiet := by
    rw [levelOf_setup, if_neg hquiet, if_neg hmain]
    exact h name hmain hquiet
  made q hq := mem_loggers_foldl_setLevel _ _ _ (.inl hq)
  decided logger reached passed hlookup := by
    rw [setup, decided_foldl_setLevel _ _ _ rfl] at hlookup
    cases hlookup

/-- Behind two points either level may hold: that of the root, or that of the quiet logger once the
logger between them has been made. -/
example : (setup {} {} (some 10) false).effectiveLevel "urllib3..x" = 10 ∧
    ((setup {} {} (some 10) false).after ⟨"urllib3.", 20, ""⟩).effectiveLevel "urllib3..x" = 30 := by
  decide

end ScionEcho.Logging
