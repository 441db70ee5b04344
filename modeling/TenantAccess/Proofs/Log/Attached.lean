import TenantAccess.Log.Style
import TenantAccess.Proofs.Redaction.Clean

/-! # What a line in JSON shows of the attached fields

Fields come to a line by two ways. One under a name of its own is shown by its preview, without secrets.
One under the name of a context field is lifted before the others, and shown as it was attached: its
secrets stay in the line. The message is shown without secrets.
-/

namespace TenantAccess.LogStyle

open TenantAccess.Redaction TenantAccess.Preview

variable {s : LogStyle} {r : LogRecord} {p : Parts} {name : String}

/-! ## Looking up a field -/

theorem value?_append (fs gs : Fields) (name : String) :
    Fields.value? (fs ++ gs) name = (Fields.value? fs name).or (Fields.value? gs name) := by
  simp only [Fields.value?, List.find?_append, Option.map_or]

theorem value?_cons (f : String × Value) (fs : Fields) (name : String) :
    Fields.value? (f :: fs) name = if f.1 = name then some f.2 else Fields.value? fs name := by
  by_cases same : f.1 = name <;> simp [Fields.value?, same]

theorem value?_of_not_mem {fs : Fields} (absent : ∀ f ∈ fs, f.1 ≠ name) : Fields.value? fs name = none := by
  have nothing : fs.find? (fun f => f.1 == name) = none :=
    List.find?_eq_none.mpr fun f there => by simpa using absent f there
  rw [Fields.value?, nothing, Option.map_none]

/-! ## The parts of a line -/

/-- The names that a line gives to its own parts. -/
def ownNames : List String := ["timestamp", "level", "logger", "message", "service", "exception"]

/-- The fields before the context. -/
def head (s : LogStyle) (r : LogRecord) (p : Parts) : Fields :=
  [("timestamp", .text p.timestamp), ("level", r.level), ("logger", r.logger),
      ("message", .text (guarded s.redacts p.message))] ++
    ((s.serviceName.filter (· ≠ "")).map fun name => ("service", Value.text name)).toList

/-- The field of the exception. -/
def tail (p : Parts) : Fields := (p.exception.map fun text => ("exception", Value.text text)).toList

theorem leading_eq (s : LogStyle) (r : LogRecord) (p : Parts) :
    s.leading r p = s.head r p ++ asValues (context r) ++ tail p := rfl

theorem own_of_head {f : String × Value} (there : f ∈ s.head r p) : f.1 ∈ ownNames := by
  rcases List.mem_append.mp there with there | there
  · simp only [List.mem_cons, List.not_mem_nil, or_false] at there
    rcases there with rfl | rfl | rfl | rfl <;> simp [ownNames]
  · obtain ⟨text, -, rfl⟩ := Option.map_eq_some_iff.mp (Option.mem_toList.mp there)
    simp [ownNames]

theorem own_of_tail {f : String × Value} (there : f ∈ tail p) : f.1 ∈ ownNames := by
  obtain ⟨text, -, rfl⟩ := Option.map_eq_some_iff.mp (Option.mem_toList.mp there)
  simp [ownNames]

theorem name_of_context {f : String × Value} (there : f ∈ asValues (context r)) : f.1 ∈ contextNames := by
  obtain ⟨g, inside, rfl⟩ := List.mem_map.mp there
  obtain ⟨name, listed, found⟩ := List.mem_filterMap.mp inside
  obtain ⟨v, -, rfl⟩ := Option.map_eq_some_iff.mp found
  exact listed

theorem value?_context_names (names : List String) (name : String) :
    Fields.value? (asValues (names.filterMap (contextField? r))) name =
      if name ∈ names then
        ((Fields.value? r.extra name).filter Value.isPresent).map fun v => .text v.shown
      else none := by
  induction names with
  | nil => rfl
  | cons other names ih =>
      cases found : (Fields.value? r.extra other).filter Value.isPresent with
      | none =>
          have skipped : contextField? r other = none := by rw [contextField?, found]; rfl
          rw [List.filterMap_cons_none skipped, ih]
          by_cases same : name = other
          · subst same
            simp [found]
          · simp [same]
      | some v =>
          have lifted : contextField? r other = some (other, v.shown) := by rw [contextField?, found]; rfl
          rw [List.filterMap_cons_some lifted, asValues, List.map_cons, value?_cons, ← asValues, ih]
          by_cases same : name = other
          · subst same
            simp [found]
          · simp [same, Ne.symm same]

theorem value?_kept (keep : String → Bool) (kept : keep name = true) (textOf : Value → String)
    (fs : Fields) :
    Fields.value? (asValues ((fs.filter fun f => keep f.1).map fun f => (f.1, textOf f.2))) name =
      (Fields.value? fs name).map fun v => .text (textOf v) := by
  induction fs with
  | nil => rfl
  | cons f fs ih =>
      rw [value?_cons]
      by_cases same : f.1 = name
      · subst same
        simp [kept, asValues, value?_cons]
      · rw [if_neg same, ← ih]
        cases other : keep f.1 with
        | true => simp [other, asValues, value?_cons, same]
        | false => simp [other]

/-! ## What is shown -/

theorem value?_message (s : LogStyle) (r : LogRecord) (p : Parts) :
    Fields.value? (s.fields r p) "message" = some (.text (guarded s.redacts p.message)) := rfl

/-- A context field is lifted as it was attached, if there is something in it. -/
theorem value?_lifted (listed : name ∈ contextNames) :
    Fields.value? (s.fields r p) name =
      ((Fields.value? r.extra name).filter Value.isPresent).map fun v => .text v.shown := by
  have other : name ∉ ownNames := by revert name; decide
  have ahead : Fields.value? (s.head r p) name = none :=
    value?_of_not_mem fun f there same => other (same ▸ own_of_head there)
  have behind : Fields.value? (tail p) name = none :=
    value?_of_not_mem fun f there same => other (same ▸ own_of_tail there)
  have skipped : Fields.value? (asValues (s.attached r (s.leading r p))) name = none := by
    refine value?_of_not_mem fun f there same => ?_
    obtain ⟨g, inside, rfl⟩ := List.mem_map.mp there
    obtain ⟨e, kept, rfl⟩ := List.mem_map.mp inside
    have free := (List.mem_filter.mp kept).2
    simp only [isTaken, Bool.not_eq_true', Bool.or_eq_false_iff] at free
    have there : contextNames.contains e.1 = true := List.contains_iff_mem.mpr (same ▸ listed)
    rw [free.1.2] at there
    cases there
  rw [fields, value?_append, skipped, leading_eq, value?_append, value?_append, ahead, behind, context,
    value?_context_names, if_pos listed, Option.none_or, Option.or_none, Option.or_none]

/-- Any other field that a caller may choose is shown by its preview. -/
theorem value?_attached (free : name ∉ LogRecord.standardNames) (other : name ∉ ownNames)
    (plain : name ∉ contextNames) :
    Fields.value? (s.fields r p) name =
      (Fields.value? r.extra name).map fun v => .text (logged standardLimit s.redacts v) := by
  have ahead : ∀ f ∈ s.leading r p, f.1 ≠ name := by
    intro f there same
    rw [leading_eq, List.mem_append, List.mem_append] at there
    rcases there with (there | there) | there
    · exact other (same ▸ own_of_head there)
    · exact plain (same ▸ name_of_context there)
    · exact other (same ▸ own_of_tail there)
  have untaken : (!isTaken (s.leading r p) name) = true := by
    have none : (s.leading r p).any (·.1 == name) = false :=
      List.any_eq_false.mpr fun f there => by simpa using ahead f there
    simp [isTaken, free, plain, none]
  rw [fields, value?_append, value?_of_not_mem ahead, Option.none_or]
  exact value?_kept (fun other => !isTaken (s.leading r p) other) untaken _ r.extra

/-- A text as it may be shown: without its secrets, or by its preview without secrets. -/
def Redacted (x : String) (v : Value) : Prop :=
  v = .text (redactText x) ∨ v = .text (redactText (ofValue standardLimit (.text x)))

theorem clean_of_redacted {x y : String} (redacted : Redacted x (.text y)) {shape : Shape}
    (secret : shape ∈ secretShapes) : Clean shape y.toList := by
  rcases redacted with same | same
  · rw [Value.text.inj same, toList_redactText]
    exact clean_redact secret _
  · rw [Value.text.inj same, toList_redactText]
    exact clean_redact secret _

theorem redacted_self_iff {x : String} :
    Redacted x (.text x) ↔ ∀ shape ∈ secretShapes, Clean shape x.toList :=
  ⟨fun redacted _ => clean_of_redacted redacted,
    fun clean => .inl (congrArg Value.text (redactText_eq_self_iff.mpr clean).symm)⟩

theorem value?_lifted_text {x : String} (there : Fields.value? r.extra name = some (.text x))
    (listed : name ∈ contextNames) :
    Fields.value? (s.fields r p) name = if x ≠ "" then some (.text x) else none := by
  rw [value?_lifted listed, there]
  by_cases nothing : x = "" <;> simp [Value.isPresent, Value.shown, nothing]

/-- A lifted text may be shown just if it has no secrets; an empty one is not shown at all. -/
theorem redacted_of_lifted_iff {x : String} (there : Fields.value? r.extra name = some (.text x))
    (listed : name ∈ contextNames) :
    (∀ v, Fields.value? (s.fields r p) name = some v → Redacted x v) ↔
      ∀ shape ∈ secretShapes, Clean shape x.toList := by
  rw [value?_lifted_text there listed, ← redacted_self_iff]
  constructor
  · intro all
    by_cases nothing : x = ""
    · subst nothing
      exact .inl rfl
    · exact all _ (if_pos nothing)
  · intro redacted v found
    obtain ⟨-, same⟩ := Option.ite_none_right_eq_some.mp found
    exact Option.some.inj same ▸ redacted

theorem message_of_parts (parts : partsOf r = .ok p) : r.text = .ok p.message := by
  simp only [partsOf, bind, Except.bind, pure, Except.pure] at parts
  split at parts
  · cases parts
  · split at parts
    · cases parts
    · next filled =>
        split at parts
        · cases parts
        · cases parts
          exact filled

theorem parts_of_line (json : s.asJson = true) {out : String} (written : s.line r = .ok out) :
    ∃ p, partsOf r = .ok p ∧ out = (Value.record (s.fields r p)).toJson := by
  simp only [line, bind, Except.bind, pure, Except.pure, json, if_true] at written
  split at written
  · cases written
  · next p parts =>
      cases written
      exact ⟨p, parts, rfl⟩

/-- A line in JSON shows the message without its secrets, and every text that a caller attaches under a
name of its own by its preview without secrets. A text under the name of a context field is shown as it is,
which is without secrets just if it has none. -/
theorem attached_texts_shown (json : s.asJson = true) (guards : s.redacts = true) {out : String}
    (written : s.line r = .ok out) :
    ∃ p, partsOf r = .ok p ∧ out = (Value.record (s.fields r p)).toJson ∧ r.text = .ok p.message ∧
      Fields.value? (s.fields r p) "message" = some (.text (redactText p.message)) ∧
      ∀ name x, Fields.value? r.extra name = some (.text x) →
        name ∉ LogRecord.standardNames → name ∉ ownNames →
          (name ∉ contextNames → Fields.value? (s.fields r p) name =
            some (.text (redactText (ofValue standardLimit (.text x))))) ∧
          (name ∈ contextNames → Fields.value? (s.fields r p) name =
            if x ≠ "" then some (.text x) else none) ∧
          ((∀ v, Fields.value? (s.fields r p) name = some v → Redacted x v) ↔
            (name ∈ contextNames → ∀ shape ∈ secretShapes, Clean shape x.toList)) := by
  obtain ⟨p, parts, line⟩ := parts_of_line json written
  have message : Fields.value? (s.fields r p) "message" = some (.text (redactText p.message)) := by
    rw [value?_message, guarded, if_pos guards]
  refine ⟨p, parts, line, message_of_parts parts, message, fun name x there free other => ?_⟩
  by_cases listed : name ∈ contextNames
  · refine ⟨fun plain => absurd listed plain, fun _ => value?_lifted_text there listed, ?_⟩
    rw [redacted_of_lifted_iff there listed, imp_iff_right listed]
  · have shown : Fields.value? (s.fields r p) name =
        some (.text (redactText (ofValue standardLimit (.text x)))) := by
      rw [value?_attached free other listed, there, guards]
      rfl
    refine ⟨fun _ => shown, fun lifted => absurd lifted listed, fun _ lifted => absurd lifted listed,
      fun _ v found => ?_⟩
    rw [shown] at found
    exact .inr (Option.some.inj found).symm

/-- A record with a context field and a field under a name of its own, each with a credential in it. -/
def twoCredentials : LogRecord where
  logger := .text "access"
  level := .text "INFO"
  message := "login"
  arguments := .several []
  created := .int 0
  milliseconds := .int 0
  extra := [("actor_id", .text "Bearer abcdef123"), ("header", .text "Bearer abcdef123")]
  exception := .attached .null

/-- Outside the context the credential is not shown. -/
theorem credential_attached :
    ∃ out p, (LogStyle.mk true true none).line twoCredentials = .ok out ∧
      Fields.value? ((LogStyle.mk true true none).fields twoCredentials p) "header" =
        some (.text "[REDACTED]") := by
  have written : (LogStyle.mk true true none).line twoCredentials =
      .ok (Value.record ((LogStyle.mk true true none).fields twoCredentials
        ⟨"1970-01-01 00:00:00,000", "login", none⟩)).toJson := rfl
  obtain ⟨p, -, -, -, -, all⟩ := attached_texts_shown rfl rfl written
  refine ⟨_, p, written, ?_⟩
  rw [(all "header" "Bearer abcdef123" rfl (by decide) (by decide)).1 (by decide)]
  exact congrArg (some ∘ Value.text) (by decide)

/-- In the context it is. -/
theorem credential_lifted :
    partsOf twoCredentials = .ok ⟨"1970-01-01 00:00:00,000", "login", none⟩ ∧
      Fields.value? ((LogStyle.mk true true none).fields twoCredentials
        ⟨"1970-01-01 00:00:00,000", "login", none⟩) "actor_id" = some (.text "Bearer abcdef123") ∧
      redactText "Bearer abcdef123" = "[REDACTED]" ∧
      redactText (ofValue standardLimit (.text "Bearer abcdef123")) = "[REDACTED]" := by
  exact ⟨rfl, rfl, by decide, by decide⟩

end TenantAccess.LogStyle
