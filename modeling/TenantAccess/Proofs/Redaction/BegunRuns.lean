import Mathlib.Data.List.TakeWhile
import TenantAccess.Proofs.Redaction.KeyRuns

/-! # Secrets that begin in a run

Where the text behind a run goes on with the rest of a name, a run that ends as the name begins is not taken
for a key as a whole: its last digits go with the secret, and the mark stands where another run leaves what is
behind it as it was. The two come out differently, unless a secret that begins before them takes both.
-/

namespace TenantAccess.Redaction

open TenantAccess.Text

variable {shape other : Shape} {shapes : List Shape} {row front tail : List Piece} {isIn : Char → Bool}
  {lasts w u x y z after before g cs : List Char} {c d : Char} {i j k least m n : Nat}

/-! ## How names begin -/

/-- The letters by which the names of secrets begin, up to where a joint may stand. -/
def nameHeads : List String :=
  ["password", "passwd", "pwd", "secret", "token", "api", "auth", "bearer", "basic", "sk-", "pk-",
    "x-api-key", "x-auth-token", "authorization"]

theorem head_of_row (named : shape ∈ namedShapes) (there : row ∈ shape) :
    ∃ head ∈ nameHeads, ∃ rest, row = Piece.word head ++ rest := by
  have all : ∀ shape ∈ namedShapes, ∀ row ∈ shape,
      ∃ head ∈ nameHeads, ∃ rest, row = Piece.word head ++ rest := by
    simp only [namedShapes, assignedSecret, schemeCredential, knownKey, assignedHeader, List.map_cons,
      List.map_nil, List.forall_mem_cons, List.not_mem_nil, false_implies, implies_true, and_true]
    exact ⟨⟨⟨"password", by decide, _, rfl⟩, ⟨"passwd", by decide, _, rfl⟩, ⟨"pwd", by decide, _, rfl⟩,
        ⟨"secret", by decide, _, rfl⟩, ⟨"token", by decide, _, rfl⟩, ⟨"api", by decide, _, rfl⟩,
        ⟨"auth", by decide, _, rfl⟩⟩,
      ⟨⟨"bearer", by decide, _, rfl⟩, ⟨"basic", by decide, _, rfl⟩⟩,
      ⟨⟨"sk-", by decide, _, rfl⟩, ⟨"pk-", by decide, _, rfl⟩⟩,
      ⟨⟨"x-api-key", by decide, _, rfl⟩, ⟨"x-auth-token", by decide, _, rfl⟩,
        ⟨"authorization", by decide, _, rfl⟩⟩⟩
  exact all shape named row there

theorem prefix_of_letters {letters : List Char}
    (takes : sizeOfRow? (letters.map letter ++ row) cs = some n) : letters <+: cs.map foldLetter := by
  induction letters generalizing cs n with
  | nil => exact List.nil_prefix
  | cons l letters ih =>
      obtain ⟨m, k, first, rest, -⟩ := sizeOfRow?_cons_eq_some_iff.mp takes
      obtain ⟨c, cs, rfl, same, rfl⟩ := Piece.size?_one_eq_some_iff.mp first
      rw [beq_iff_eq] at same
      exact List.cons_prefix_cons.mpr ⟨same.symm, ih rest⟩

theorem head_of_size? (named : shape ∈ namedShapes) (fits : shape.size? cs = some n) :
    ∃ head ∈ nameHeads, head.toList <+: cs.map foldLetter := by
  obtain ⟨⟨row, there, takes⟩, -⟩ := Shape.size?_eq_some fits
  obtain ⟨head, listed, rest, rfl⟩ := head_of_row named there
  exact ⟨head, listed, prefix_of_letters takes⟩

/-- No name begins with what is behind the digits that another one begins with. -/
theorem heads_apart : ∀ head ∈ nameHeads, ∀ other ∈ nameHeads,
    head.toList.takeWhile keyDigits.contains ≠ [] →
      ¬ head.toList.dropWhile keyDigits.contains <+: other.toList ∧
        ¬ other.toList <+: head.toList.dropWhile keyDigits.contains := by
  have all : (nameHeads.all fun head => nameHeads.all fun other =>
      (head.toList.takeWhile keyDigits.contains).isEmpty ||
        !((head.toList.dropWhile keyDigits.contains).isPrefixOf other.toList ||
          other.toList.isPrefixOf (head.toList.dropWhile keyDigits.contains))) = true := by
    decide +kernel
  intro head listed other listed' begun
  have apart := List.all_eq_true.mp (List.all_eq_true.mp all head listed) other listed'
  simpa [begun, ← List.isPrefixOf_iff_prefix] using apart

theorem small_of_head : ∀ head ∈ nameHeads, ∀ c ∈ head.toList,
    keyDigits.contains c = true → ('a' ≤ c && c ≤ 'f') = true := by
  have all : (nameHeads.all fun head => head.toList.all fun c =>
      !keyDigits.contains c || ('a' ≤ c && c ≤ 'f')) = true := by decide +kernel
  intro head listed c there digit
  have small := List.all_eq_true.mp (List.all_eq_true.mp all head listed) c there
  rwa [digit] at small

theorem strange_head : ∀ head ∈ nameHeads, head.toList.dropWhile keyDigits.contains ≠ [] := by
  have all : (nameHeads.all fun head => !(head.toList.dropWhile keyDigits.contains).isEmpty) = true := by
    decide +kernel
  intro head listed nothing
  have strange := List.all_eq_true.mp all head listed
  rw [nothing] at strange
  cases strange

theorem map_foldLetter (digits : ∀ c ∈ u, c ∈ keyDigits) : u.map foldLetter = u :=
  (List.map_congr_left fun c there => foldLetter_of_keyDigit (digits c there)).trans (List.map_id' u)

/-- Where a name begins with digits, its letters go on behind them. -/
theorem letters_behind_digits {head : String} (listed : head ∈ nameHeads)
    (digits : ∀ c ∈ u, c ∈ keyDigits) (stops : ∀ c ∈ after.head?, isHexDigit c = false)
    (first : head.toList <+: u ++ after.map foldLetter) :
    head.toList.takeWhile keyDigits.contains = u ∧
      head.toList.dropWhile keyDigits.contains <+: after.map foldLetter := by
  have strange := strange_head head listed
  have small := small_of_head head listed
  generalize head.toList = letters at first strange small
  have inside : ∀ c ∈ u, keyDigits.contains c = true := fun c there =>
    List.contains_iff_mem.mpr (digits c there)
  have known := List.prefix_append u (after.map foldLetter)
  have further : ¬ letters <+: u := fun short => strange
    (List.dropWhile_eq_nil_iff.mpr fun c there => inside c (short.subset there))
  rcases Nat.le_total letters.length u.length with less | more
  · exact absurd (List.prefix_of_prefix_length_le first known less) further
  · obtain ⟨t, rfl⟩ := List.prefix_of_prefix_length_le known first more
    have goes := (List.prefix_append_right_inj u).mp first
    cases t with
    | nil => exact absurd (by simp) further
    | cons l t =>
        have stop : keyDigits.contains l = false := by
          refine Bool.eq_false_iff.mpr fun digit => ?_
          cases after with
          | nil => cases List.prefix_nil.mp goes
          | cons c after =>
              have same : l = foldLetter c := (List.cons_prefix_cons.mp goes).1
              have hex := stops c rfl
              have within := small l (by simp) digit
              rw [same] at within
              simp [isHexDigit, within] at hex
        rw [List.takeWhile_append_of_pos inside, List.dropWhile_append_of_pos inside]
        simp only [List.takeWhile_cons, List.dropWhile_cons, stop, Bool.false_eq_true, if_false,
          List.append_nil]
        exact ⟨trivial, goes⟩

/-- Behind digits with which a name begins no secret begins. -/
theorem size?_behind_begun (named : shape ∈ namedShapes) (known : other ∈ namedShapes) (begun : u ≠ [])
    (digits : ∀ c ∈ u, c ∈ keyDigits) (stops : ∀ c ∈ after.head?, isHexDigit c = false)
    (fits : shape.size? (u ++ after) = some n) : other.size? after = none := by
  refine Option.eq_none_iff_forall_ne_some.mpr fun m fits' => ?_
  obtain ⟨head, listed, first⟩ := head_of_size? named fits
  obtain ⟨head', listed', first'⟩ := head_of_size? known fits'
  rw [List.map_append, map_foldLetter digits] at first
  obtain ⟨taken, goes⟩ := letters_behind_digits listed digits stops first
  obtain ⟨apart, apart'⟩ := heads_apart head listed head' listed' (taken ▸ begun)
  rcases Nat.le_total (head.toList.dropWhile keyDigits.contains).length head'.toList.length with
    less | more
  · exact apart (List.prefix_of_prefix_length_le goes first' less)
  · exact apart' (List.prefix_of_prefix_length_le first' goes more)

/-! ## A text ahead of two others -/

theorem isRun_append_zeros (digits : ∀ c ∈ w, c ∈ keyDigits) (j : Nat) :
    IsRun (w.length + j) (w ++ List.replicate j '0') :=
  IsRun.append ⟨rfl, digits⟩ (isRun_replicate (by decide) j)

theorem getLast?_append_zeros (more : 0 < j) (w : List Char) :
    (w ++ List.replicate j '0').getLast? = some '0' := by
  rw [List.getLast?_append_of_ne_nil w (by simp [more.ne']), List.getLast?_replicate, if_neg more.ne']

theorem forall_of_takeWhile {p y : List Char} (whole : p.length ≤ ((p ++ y).takeWhile isIn).length) :
    ∀ c ∈ p, isIn c = true := by
  rw [List.takeWhile_append] at whole
  split at whole
  · next all =>
      exact List.takeWhile_eq_self_iff.mp ((List.takeWhile_prefix isIn).eq_of_length all)
  · next less =>
      exact absurd ((List.takeWhile_prefix isIn).length_le.antisymm whole) less

/-- Where a row goes through a word that ends in a mark, it goes into a longer word as well. -/
theorem sizeOfRow?_longer {word : List Char}
    (takes : sizeOfRow? (front ++ [.run least isIn]) (x ++ (w ++ z)) = some k)
    (through : x.length + w.length ≤ k)
    (same : ∀ i, sizeOfRow? front (x ++ (w ++ z)) = some i →
      i ≤ x.length ∧ sizeOfRow? front (x ++ (w ++ (word ++ y))) = some i)
    (wide : ∀ c ∈ word, isIn c = true) (enough : least ≤ w.length + word.length) (begun : w ≠ []) :
    ∃ n, sizeOfRow? (front ++ [.run least isIn]) (x ++ (w ++ (word ++ y))) = some n ∧ x.length < n := by
  obtain ⟨i, r, first, last, rfl⟩ := sizeOfRow?_append_eq_some_iff.mp takes
  obtain ⟨within, again⟩ := same i first
  obtain ⟨r, none, run, nothing, rfl⟩ := sizeOfRow?_cons_eq_some_iff.mp last
  cases nothing
  obtain ⟨rfl, -⟩ := Piece.size?_run_eq_some_iff.mp run
  rw [List.drop_append_of_le_length within, ← List.append_assoc] at through
  have all : ∀ c ∈ x.drop i ++ w, isIn c = true := by
    refine forall_of_takeWhile (y := z) ?_
    rw [List.length_append, List.length_drop]
    omega
  have found : (x ++ (w ++ (word ++ y))).drop i = (x.drop i ++ w ++ word) ++ y := by
    rw [List.drop_append_of_le_length within]
    simp only [List.append_assoc]
  have every : ∀ c ∈ x.drop i ++ w ++ word, isIn c = true := fun c there =>
    (List.mem_append.mp there).elim (all c) (wide c)
  have long : (x.length - i) + w.length + word.length ≤
      (((x ++ (w ++ (word ++ y))).drop i).takeWhile isIn).length := by
    rw [found, List.takeWhile_append_of_pos every]
    simp only [List.length_append, List.length_drop]
    omega
  have more := List.length_pos_iff.mpr begun
  refine ⟨_, sizeOfRow?_append_eq_some_iff.mpr ⟨i, _, again, sizeOfRow?_cons_eq_some_iff.mpr
    ⟨_, 0, Piece.size?_run_eq_some_iff.mpr ⟨rfl, ?_⟩, rfl, rfl⟩, rfl⟩, ?_⟩
  · omega
  · omega

theorem sizeOfRow?_ahead (plain : ∀ p ∈ front, p.admits d = false)
    (takes : sizeOfRow? front (x ++ d :: y) = some i) :
    i ≤ x.length ∧ ∀ y', sizeOfRow? front (x ++ d :: y') = some i := by
  rw [sizeOfRow?_stop plain] at takes
  exact ⟨sizeOfRow?_le takes, fun y' => (sizeOfRow?_stop plain x y').trans takes⟩

theorem blocks_bracket : Blocks '[' := ⟨by decide, by decide, by decide, by decide, by decide⟩

theorem size?_bracket (secret : shape ∈ secretShapes) : shape.size? ('[' :: z) = none :=
  Option.eq_none_iff_forall_ne_some.mpr fun _ fits => by cases first_of_size? secret fits

section

variable (digits : ∀ c ∈ w, c ∈ keyDigits) (begun : w ≠ []) (long : 32 ≤ w.length + j)

include digits begun long

theorem Names.longer (names : Names shape lasts tail) (known : tail = assignment ∨ tail = credential)
    (there : row ∈ shape) (takes : sizeOfRow? row (x ++ (w ++ '[' :: z)) = some k)
    (through : x.length + w.length ≤ k) :
    ∃ n, sizeOfRow? row (x ++ (w ++ (List.replicate j '0' ++ y))) = some n ∧ x.length < n := by
  have isTail := isTail_of_known known
  obtain ⟨name, -, rfl⟩ := names row there
  obtain ⟨m, i, first, rest, rfl⟩ := sizeOfRow?_append_eq_some_iff.mp takes
  have within := name.le_of_run known digits (.inr ⟨'[', z, rfl, blocks_bracket⟩) first rest
  obtain ⟨ahead, least, isIn, same, few, wide⟩ := isTail.last
  rw [same, ← List.append_assoc] at takes ⊢
  refine sizeOfRow?_longer takes through (fun i fits => ?_) (fun c there => ?_) ?_ begun
  · obtain ⟨m', i, first', between, rfl⟩ := sizeOfRow?_append_eq_some_iff.mp fits
    cases first.symm.trans first'
    obtain ⟨d, w, rfl⟩ := List.exists_cons_of_ne_nil begun
    have digit := alphanumeric_of_keyDigit (digits d List.mem_cons_self)
    rw [List.drop_append_of_le_length within] at between
    obtain ⟨short, again⟩ := sizeOfRow?_ahead (wide d digit).2 between
    rw [List.length_drop] at short
    refine ⟨by omega, sizeOfRow?_append_eq_some_iff.mpr ⟨m, i, name.size_local first within _, ?_, rfl⟩⟩
    rw [List.drop_append_of_le_length within]
    exact again _
  · rw [(List.mem_replicate.mp there).2]
    exact (wide '0' (by decide)).1
  · rw [List.length_replicate]
    omega

theorem knownKey_longer (there : row ∈ knownKey) (takes : sizeOfRow? row (x ++ (w ++ '[' :: z)) = some k)
    (through : x.length + w.length ≤ k) :
    ∃ n, sizeOfRow? row (x ++ (w ++ (List.replicate j '0' ++ y))) = some n ∧ x.length < n := by
  obtain ⟨start, listed, rfl⟩ := List.mem_map.mp there
  have plain : ∀ p ∈ Piece.word start, ∀ c ∈ keyDigits, p.admits c = false := by
    have all : (["sk-", "pk-"].all fun start =>
        (Piece.word start).all fun p => keyDigits.all fun c => !p.admits c) = true := by decide
    intro p inside c digit
    have bare := List.all_eq_true.mp (List.all_eq_true.mp (List.all_eq_true.mp all start listed) p inside)
    simpa using bare c digit
  refine sizeOfRow?_longer takes through (fun i fits => ?_) (fun c there => ?_) ?_ begun
  · obtain ⟨d, w, rfl⟩ := List.exists_cons_of_ne_nil begun
    obtain ⟨short, again⟩ :=
      sizeOfRow?_ahead (fun p there => plain p there d (digits d List.mem_cons_self)) fits
    exact ⟨short, again _⟩
  · rw [(List.mem_replicate.mp there).2]
    decide
  · rw [List.length_replicate]
    exact long

/-- What is ahead of a run, and reaches into none that is long enough, does not tell a mark in the run from
more digits. -/
theorem size?_before_mark (named : shape ∈ namedShapes)
    (short : ∀ n, shape.size? (x ++ (w ++ (List.replicate j '0' ++ y))) = some n → n ≤ x.length) :
    shape.size? (x ++ (w ++ '[' :: z)) = shape.size? (x ++ (w ++ (List.replicate j '0' ++ y))) := by
  have secret := secret_of_named named
  refine Shape.size?_eq_within (fun row there n => pos_of_row secret there) short
    fun row there within => Option.ext fun k => ?_
  have size := List.length_pos_iff.mpr begun
  have closer {a b : List Char} (takes : sizeOfRow? row (x ++ (w ++ a)) = some k)
      (less : k < x.length + w.length) : sizeOfRow? row (x ++ (w ++ b)) = some k := by
    rw [← List.append_assoc] at takes ⊢
    exact sizeOfRow?_local takes (by rwa [List.length_append]) b
  have longer (takes : sizeOfRow? row (x ++ (w ++ '[' :: z)) = some k)
      (through : x.length + w.length ≤ k) :
      ∃ n, sizeOfRow? row (x ++ (w ++ (List.replicate j '0' ++ y))) = some n ∧ x.length < n := by
    simp only [namedShapes, List.mem_cons, List.not_mem_nil, or_false] at named
    rcases named with rfl | rfl | rfl | rfl
    · exact names_assignedSecret.longer digits begun long (.inl rfl) there takes through
    · exact names_schemeCredential.longer digits begun long (.inr rfl) there takes through
    · exact knownKey_longer digits begun long there takes through
    · exact names_assignedHeader.longer digits begun long (.inl rfl) there takes through
  constructor
  · intro takes
    rcases Nat.lt_or_ge k (x.length + w.length) with less | through
    · exact closer takes less
    · -- what goes through the digits up to the mark would take more digits too
      obtain ⟨n, further, beyond⟩ := longer takes through
      exact absurd (within n further) (Nat.not_le.mpr beyond)
  · intro takes
    have most := within k takes
    exact closer takes (by omega)

/-- Where no secret that begins ahead of a run takes it, what is ahead comes out the same with a mark in the
run as with more digits. -/
theorem ahead_of_mark (known : ∀ shape ∈ shapes, shape ∈ namedShapes)
    (flanks : Flanks (w.length + j) x after) (more : 0 < j)
    (free : ¬ Overtakes shapes x (w ++ (List.replicate j '0' ++ after))) :
    ∃ x' after', Flanks (w.length + j) x' after' ∧ after' = hideAll shapes after ∧
      hideAll shapes (x ++ (w ++ (List.replicate j '0' ++ after))) =
        x' ++ (w ++ (List.replicate j '0' ++ after')) ∧
      ∀ z, hideAll shapes (x ++ (w ++ '[' :: z)) = x' ++ (w ++ hideAll shapes ('[' :: z)) := by
  induction shapes generalizing x after with
  | nil => exact ⟨x, after, flanks, rfl, rfl, fun _ => rfl⟩
  | cons shape shapes ih =>
      obtain ⟨named, known⟩ := List.forall_mem_cons.mp known
      obtain ⟨none, free⟩ := not_or.mp free
      have none := Nat.eq_zero_of_not_pos none
      have calm : Calm shape (w ++ List.replicate j '0') after :=
        calm_of_last named (isRun_append_zeros digits j).digits (getLast?_append_zeros more w) (by decide) after
      have still : shape.hide (w ++ (List.replicate j '0' ++ after)) =
          w ++ (List.replicate j '0' ++ shape.hide after) := by
        rw [← List.append_assoc, calm.hide_eq, List.append_assoc]
      rw [still] at free
      obtain ⟨x', after', flanks', rfl, first, second⟩ :=
        ih known (flanks.hide (secret_of_named named) (w ++ (List.replicate j '0' ++ after))) free
      refine ⟨x', _, flanks', rfl, ?_, fun z => ?_⟩
      · rw [hideAll_cons, Shape.hide_append_of_overhang none, still, first]
      · have blocked : ∀ c ∈ ('[' :: z).head?, isNameChar (foldLetter c) = false ∧ isJoint c = false := by
          intro c first
          cases first
          exact ⟨blocks_bracket.name, blocks_bracket.joint⟩
        obtain ⟨same, none'⟩ := Shape.front_eq_of_overhang (fun u _ _ short =>
          size?_before_mark digits begun long named short (z := z)) none
        have kept := Shape.hide_of_none (size?_bracket (z := z) (secret_of_named named))
        rw [hideAll_cons, hideAll_cons, Shape.hide_append_of_overhang none', same,
          (calm_of_no_name named digits blocked).hide_eq, kept, second]

end

/-! ## Runs in which a secret begins -/

/-- The first secret that begins in a run. -/
theorem exists_of_not_calm (begins : ¬ Calm shape g after) :
    ∃ w u n, g = w ++ u ∧ u ≠ [] ∧ shape.size? (u ++ after) = some n ∧ Calm shape w (u ++ after) := by
  induction g with
  | nil => exact absurd (fun u begun inside => absurd (List.suffix_nil.mp inside) begun) begins
  | cons c g ih =>
      cases found : shape.size? (c :: g ++ after) with
      | some n =>
          exact ⟨[], c :: g, n, rfl, List.cons_ne_nil c g, found, fun u begun inside =>
            absurd (List.suffix_nil.mp inside) begun⟩
      | none =>
          obtain ⟨w, u, n, rfl, begun, fits, calm⟩ := ih fun calm => begins fun u begun inside => by
            rcases List.suffix_cons_iff.mp inside with rfl | inside
            · exact found
            · exact calm u begun inside
          refine ⟨c :: w, u, n, rfl, begun, fits, fun v more inside => ?_⟩
          rcases List.suffix_cons_iff.mp inside with rfl | inside
          · rwa [← List.append_assoc]
          · exact calm v more inside

/-- What begins no secret is left to begin what comes out. -/
theorem head_hideAll {rest : List Char} (known : ∀ shape ∈ shapes, shape ∈ secretShapes)
    (nothing : ∀ shape ∈ shapes, shape.size? (c :: rest) = none) :
    (hideAll shapes (c :: rest)).head? = some c := by
  induction shapes generalizing rest with
  | nil => rfl
  | cons shape shapes ih =>
      obtain ⟨secret, known⟩ := List.forall_mem_cons.mp known
      obtain ⟨here, nothing⟩ := List.forall_mem_cons.mp nothing
      rw [hideAll_cons, Shape.hide_of_none here]
      refine ih known fun other there => ?_
      rw [← Shape.hide_of_none here]
      exact size?_hide (known other there) secret (nothing other there)

theorem exists_hideAll_bracket (known : ∀ shape ∈ shapes, shape ∈ secretShapes) (z : List Char) :
    ∃ z', hideAll shapes ('[' :: z) = '[' :: z' :=
  List.head?_eq_some_iff.mp (head_hideAll known fun other there => size?_bracket (known other there))

theorem length_lt_of_begun (named : shape ∈ namedShapes) (digits : ∀ c ∈ u, c ∈ keyDigits)
    (fits : shape.size? (u ++ after) = some n) : u.length < 32 := by
  obtain ⟨lasts, tail, names, -⟩ := names_of_mem named
  obtain ⟨⟨row, there, takes⟩, -⟩ := Shape.size?_eq_some fits
  obtain ⟨name, -, rfl⟩ := names row there
  obtain ⟨m, k, first, -, -⟩ := sizeOfRow?_append_eq_some_iff.mp takes
  have beyond := name.lt_of_digits digits first
  have short := sizeOfRow?_le_length name.naming first
  have size := name.length_row
  omega

theorem hideAll_longHex (shapes : List Shape) (cs : List Char) :
    hideAll (shapes ++ [longHex]) cs = longHex.hide (hideAll shapes cs) := by
  simp only [hideAll, List.foldl_append, List.foldl_cons, List.foldl_nil]

/-- What is behind a run in which a secret begins begins as it did, where the run is not taken. -/
theorem head_behind_begun (named : shape ∈ namedShapes) (known : ∀ shape ∈ shapes, shape ∈ namedShapes)
    (digits : ∀ c ∈ u, c ∈ keyDigits) (begun : u ≠ [])
    (stops : ∀ c ∈ after.head?, isHexDigit c = false) (fits : shape.size? (u ++ after) = some n) :
    (longHex.hide (hideAll shapes (shape.hide after))).head? = after.head? ∧ after.head? ≠ some '[' := by
  have ends (no : ∀ c ∈ after.head?, isNameChar (foldLetter c) = false ∧ isJoint c = false) : False := by
    rw [calm_of_no_name named digits no u begun (List.suffix_refl u)] at fits
    cases fits
  cases after with
  | nil => exact (ends nofun).elim
  | cons c after =>
      have plain : c ≠ '[' := by
        rintro rfl
        refine ends fun c first => ?_
        cases first
        exact ⟨blocks_bracket.name, blocks_bracket.joint⟩
      refine ⟨?_, fun same => plain (Option.some.inj same)⟩
      rw [← hideAll_longHex, ← hideAll_cons]
      refine head_hideAll (fun other there => ?_) fun other there => ?_
      · rw [← List.cons_append, List.mem_append, List.mem_singleton] at there
        rcases there with there | rfl
        · exact secret_of_named (List.forall_mem_cons.mpr ⟨named, known⟩ other there)
        · simp [secretShapes]
      · rw [← List.cons_append, List.mem_append, List.mem_singleton] at there
        rcases there with there | rfl
        · exact size?_behind_begun named (List.forall_mem_cons.mpr ⟨named, known⟩ other there) begun
            digits stops fits
        · have short := stops c rfl
          rw [longHex_size?, List.takeWhile_cons_of_neg (by simp [short])]
          rfl

/-! ## Two runs told apart -/

/-- Where nothing takes a run of zeros, nothing takes another run, as long as no secret begins in it. -/
theorem free_of_zeros (known : ∀ shape ∈ shapes, shape ∈ namedShapes) (pos : 0 < n)
    (flanks : Flanks n before after) (free : ¬ Overtakes shapes before (List.replicate n '0' ++ after))
    (run : IsRun n g) (calm : ¬ Begins shapes g after) : ¬ Overtakes shapes before (g ++ after) := by
  have zeros := isRun_replicate (show '0' ∈ keyDigits by decide) n
  have calm' := not_begins_replicate known (show '0' ∈ keyDigits by decide) (by decide) pos after
  cases fate known pos flanks with
  | taken out all => exact absurd (all _ zeros calm').1 free
  | left before' after' _ all => exact (all g run calm).1

/-- A mark behind some of the digits of a run comes out otherwise than all of them, where what is behind the
run does not come out as a mark. -/
theorem mark_ne_run (digits : ∀ c ∈ w, c ∈ keyDigits) (begun : w ≠ []) (long : 32 ≤ w.length + j)
    (flanks : Flanks (w.length + j) x after) (plain : (longHex.hide after).head? ≠ some '[') :
    longHex.hide (x ++ (w ++ '[' :: z)) ≠ longHex.hide (x ++ (w ++ (List.replicate j '0' ++ after))) := by
  have marked : Flanks w.length x ('[' :: z) :=
    ⟨flanks.last, fun c first => by cases first; decide, .inr ⟨'[', z, rfl, blocks_bracket⟩⟩
  intro same
  rw [← List.append_assoc w, longHex_hide marked ⟨rfl, digits⟩,
    longHex_hide flanks (isRun_append_zeros digits j), if_pos long, List.append_cancel_left_eq,
    Shape.hide_of_none (size?_bracket (by simp [secretShapes]))] at same
  by_cases whole : 32 ≤ w.length
  · rw [if_pos whole, List.append_cancel_left_eq] at same
    rw [← same] at plain
    exact plain rfl
  · rw [if_neg whole] at same
    obtain ⟨c, w, rfl⟩ := List.exists_cons_of_ne_nil begun
    have opens : c = '[' := (List.cons.inj same).1
    have digit := digits c List.mem_cons_self
    rw [opens] at digit
    exact absurd digit (by decide)

/-- Where a secret of the shape begins in a run that nothing takes, another run is told from it: one that
ends in zeros where the secret begins. -/
theorem apart_of_not_calm (named : shape ∈ namedShapes) (known : ∀ shape ∈ shapes, shape ∈ namedShapes)
    (long : 32 ≤ n) (stops : ∀ c ∈ after.head?, isHexDigit c = false)
    (flanks : Flanks n before (shape.hide after))
    (free : ¬ Overtakes shapes before (List.replicate n '0' ++ shape.hide after)) (run : IsRun n g)
    (begins : ¬ Calm shape g after) :
    ∃ g', IsRun n g' ∧ g'.getLast? = some '0' ∧
      longHex.hide (hideAll shapes (before ++ shape.hide (g ++ after))) ≠
        longHex.hide (hideAll shapes (before ++ shape.hide (g' ++ after))) := by
  obtain ⟨w, u, k, rfl, begun, fits, calm⟩ := exists_of_not_calm begins
  have digits : ∀ c ∈ w, c ∈ keyDigits := fun c there => run.digits c (by simp [there])
  have digits' : ∀ c ∈ u, c ∈ keyDigits := fun c there => run.digits c (by simp [there])
  have more := List.length_pos_iff.mpr begun
  have few := length_lt_of_begun named digits' fits
  have size : n = w.length + u.length := by rw [← run.size, List.length_append]
  subst size
  have first : w ≠ [] := List.length_pos_iff.mp (by omega)
  have run' := isRun_append_zeros digits u.length
  have last := getLast?_append_zeros more w
  have free' := free_of_zeros known (by omega) flanks free run'
    (not_begins_of_last known run'.digits last (by decide) _)
  rw [List.append_assoc] at free'
  obtain ⟨x', after', flanks', rfl, zeros, marked⟩ :=
    ahead_of_mark digits first (by omega) known flanks more free'
  -- the secret leaves a mark, and the zeros leave what is behind them as it was
  obtain ⟨z, shown⟩ : ∃ z, shape.hide (w ++ u ++ after) = w ++ '[' :: z := by
    rw [List.append_assoc, calm.hide_eq, Shape.hide_of_size? fits]
    exact ⟨_, rfl⟩
  have still : shape.hide (w ++ List.replicate u.length '0' ++ after) =
      w ++ (List.replicate u.length '0' ++ shape.hide after) := by
    rw [(calm_of_last named run'.digits last (by decide) after).hide_eq, List.append_assoc]
  obtain ⟨z', behind⟩ := exists_hideAll_bracket (fun other there => secret_of_named (known other there)) z
  obtain ⟨kept, plain⟩ := head_behind_begun named known digits' begun stops fits
  refine ⟨w ++ List.replicate u.length '0', run', last, ?_⟩
  rw [shown, still, zeros, marked, behind]
  exact mark_ne_run digits first long flanks' (kept ▸ plain)

/-- Where a secret begins in a run that nothing takes, of one of the shapes in turn, another run is told from
it, in which none begins. -/
theorem exists_apart (known : ∀ shape ∈ shapes, shape ∈ namedShapes) (long : 32 ≤ n)
    (flanks : Flanks n before after) (free : ¬ Overtakes shapes before (List.replicate n '0' ++ after))
    (run : IsRun n g) (begins : Begins shapes g after) :
    ∃ g', IsRun n g' ∧ g'.getLast? = some '0' ∧
      longHex.hide (hideAll shapes (before ++ (g ++ after))) ≠
        longHex.hide (hideAll shapes (before ++ (g' ++ after))) := by
  induction shapes generalizing before after with
  | nil => exact begins.elim
  | cons shape shapes ih =>
      obtain ⟨named, known⟩ := List.forall_mem_cons.mp known
      obtain ⟨none, free⟩ := not_or.mp free
      have zeros := isRun_replicate (show '0' ∈ keyDigits by decide) n
      rcases hide_run named flanks (by omega) with ⟨out, all⟩ | ⟨front, flanks', all⟩
      · exact absurd (all _ zeros).1 none
      · have still : Calm shape (List.replicate n '0') after :=
          calm_replicate named (by decide) (by decide) (by omega) after
        rw [(all _ zeros).2.1, still.hide_eq] at free
        simp only [hideAll_cons, (all g run).2.2]
        by_cases calm : Calm shape g after
        · obtain ⟨g', run', last, other⟩ := ih known flanks' free (begins.resolve_left (not_not.mpr calm))
          refine ⟨g', run', last, ?_⟩
          rw [(all g' run').2.2, calm.hide_eq,
            (calm_of_last named run'.digits last (by decide) after).hide_eq]
          exact other
        · obtain ⟨g', run', last, other⟩ :=
            apart_of_not_calm named known long flanks.first flanks' free run calm
          refine ⟨g', run', last, ?_⟩
          rw [(all g' run').2.2]
          exact other

/-- Texts with one run or another come out alike just if the run is long enough to be replaced and no secret
begins in it, whichever it is; or if a secret that begins before the run takes it, and leaves of those in
which a secret begins what it leaves of the others. -/
theorem redact_run_iff (pos : 0 < n) (flanks : Flanks n before after) :
    (∀ g g', IsRun n g → IsRun n g' →
        redact (before ++ (g ++ after)) = redact (before ++ (g' ++ after))) ↔
      32 ≤ n ∧ (∀ g, IsRun n g → ¬ Begins namedShapes g after) ∨
        Overtakes namedShapes before (List.replicate n '0' ++ after) ∧
          ∀ g, IsRun n g → Begins namedShapes g after →
            redact (before ++ (g ++ after)) = redact (before ++ (List.replicate n '0' ++ after)) := by
  have zeros := isRun_replicate (show '0' ∈ keyDigits by decide) n
  have calm := not_begins_replicate (fun _ => id) (show '0' ∈ keyDigits by decide) (by decide) pos after
  constructor
  · intro same
    by_cases taken : Overtakes namedShapes before (List.replicate n '0' ++ after)
    · exact .inr ⟨taken, fun g run _ => same g _ run zeros⟩
    · have long := (or_iff_left taken).mp
        ((redact_calm_iff pos flanks).mp fun g g' run run' _ _ => same g g' run run')
      refine .inl ⟨long, fun g run begins => ?_⟩
      obtain ⟨g', run', -, other⟩ := exists_apart (fun _ => id) long flanks taken run begins
      exact other (same g g' run run')
  · rintro (⟨long, none⟩ | ⟨taken, like⟩) g g' run run'
    · exact (redact_calm_iff pos flanks).mpr (.inl long) g g' run run' (none g run) (none g' run')
    · have toZeros (g : List Char) (run : IsRun n g) :
          redact (before ++ (g ++ after)) = redact (before ++ (List.replicate n '0' ++ after)) := by
        by_cases begins : Begins namedShapes g after
        · exact like g run begins
        · exact (redact_calm_iff pos flanks).mpr (.inr taken) g _ run zeros begins calm
      rw [toZeros g run, toZeros g' run']

/-- A header takes a run with all that is joined to it; a secret that begins in the run takes more. -/
example :
    redact "authorization: 00000000000000000000000000000000pi_key= xyz".toList = "[REDACTED] xyz".toList ∧
      redact "authorization: 0000000000000000000000000000000api_key= xyz".toList = "[REDACTED]".toList := by
  decide

end TenantAccess.Redaction
