import Mathlib.Data.List.Induction
import Std.Data.TreeMap.Lemmas
import Crontab.Json.Bytes

/-!
# The size of JSON texts

A code point takes at least one byte, and a code point of a text in a JSON value takes at least one
code point of the JSON. So no text in a value that some bytes spell is longer than there are bytes.
-/

namespace Crontab

/-- A size that each step raises by one at most is raised by the number of steps at most. -/
theorem size_foldl_le {σ β : Type} {step : σ → β → σ} (size : σ → Nat)
    (hstep : ∀ s b, size (step s b) ≤ size s + 1) (bs : List β) (s : σ) :
    size (bs.foldl step s) ≤ size s + bs.length := by
  induction bs generalizing s with
  | nil => exact Nat.le_refl _
  | cons b bs ih =>
    have hfirst := hstep s b
    have hrest := ih (step s b)
    rw [List.foldl_cons, List.length_cons]
    omega

/-- The same for steps that may fail. -/
theorem size_foldlM_le {σ β : Type} {step : σ → β → Option σ} (size : σ → Nat)
    (hstep : ∀ s b t, step s b = some t → size t ≤ size s + 1) {bs : List β} {s t : σ}
    (h : bs.foldlM step s = some t) : size t ≤ size s + bs.length := by
  induction bs generalizing s with
  | nil =>
    obtain rfl : s = t := Option.some.inj h
    exact Nat.le_refl _
  | cons b bs ih =>
    rw [List.foldlM_cons] at h
    obtain ⟨next, hnext, hrest⟩ := Option.bind_eq_some_iff.mp h
    have hfirst := hstep s b next hnext
    have hlast := ih hrest
    rw [List.length_cons]
    omega

namespace Text

/-- A byte of UTF-8 completes at most one code point. -/
theorem Utf8.length_read_le {surrogates : Bool} {scan next : Utf8.Scan} {byte : UInt8}
    (h : scan.read surrogates byte = some next) : next.text.length ≤ scan.text.length + 1 := by
  unfold Utf8.Scan.read at h
  dsimp only at h
  split at h
  · split at h
    · obtain rfl := Option.some.inj h
      exact Nat.le_refl _
    · obtain ⟨_, _, rfl⟩ := Option.map_eq_some_iff.mp h
      exact Nat.le_succ _
  · split at h
    · split at h
      · obtain rfl := Option.some.inj h
        exact Nat.le_refl _
      · obtain rfl := Option.some.inj h
        exact Nat.le_succ _
    · exact absurd h nofun

theorem Utf8.length_decode?_le {surrogates : Bool} {bytes : List UInt8} {text : Text}
    (h : Utf8.decode? surrogates bytes = some text) : text.length ≤ bytes.length := by
  obtain ⟨scan, hscan, h⟩ := Option.bind_eq_some_iff.mp h
  have hsize := size_foldlM_le (fun scan : Utf8.Scan => scan.text.length)
    (fun _ _ _ hread => Utf8.length_read_le hread) hscan
  simp only [Utf8.Scan.between, List.length_nil, Nat.zero_add] at hsize
  split at h
  · obtain rfl := Option.some.inj h
    rwa [List.length_reverse]
  · exact absurd h nofun

/-- A unit adds at most one code point, whether or not it waits for its partner. -/
theorem Units.length_unit_le (scan : Units.Scan) (n : Nat) :
    (scan.unit n).settled.length ≤ scan.settled.length + 1 := by
  have hapart : ∀ done : Text, (Units.Scan.unit.apart n done).settled.length = done.length + 1 := by
    intro done
    unfold Units.Scan.unit.apart
    split <;> simp [Units.Scan.settled]
  unfold Units.Scan.unit
  split
  · next high hhigh =>
    split
    · simp [Units.Scan.settled, hhigh]
    · exact Nat.le_of_eq (hapart _)
  · next hhigh =>
    rw [hapart]
    simp [Units.Scan.settled, hhigh]

theorem Units.length_point (scan : Units.Scan) (c : CodePoint) :
    (scan.point c).settled.length = scan.settled.length + 1 := rfl

theorem Units.length_toText_le (units : List Nat) : (Units.toText units).length ≤ units.length := by
  have hsize := size_foldl_le (fun scan : Units.Scan => scan.settled.length) Units.length_unit_le
    units .start
  rw [Units.toText, Units.Scan.text, List.length_reverse]
  simpa [Units.Scan.start, Units.Scan.settled] using hsize

/-- Bytes make up at most as many units. -/
theorem Layout.length_units?_le {size : Nat} {order : ByteOrder} {bytes : List UInt8}
    {units : List Nat} (h : Layout.units? size order bytes = some units) :
    units.length ≤ bytes.length := by
  have hread : ∀ (scan : Layout.Scan) (byte : UInt8),
      (scan.read size order byte).done.length ≤ scan.done.length + 1 := by
    intro scan byte
    unfold Layout.Scan.read
    dsimp only
    split
    · exact Nat.le_succ _
    · exact Nat.le_refl _
  have hsize := size_foldl_le (fun scan : Layout.Scan => scan.done.length) hread bytes ⟨0, 0, []⟩
  simp only [List.length_nil, Nat.zero_add] at hsize
  unfold Layout.units? at h
  dsimp only at h
  split at h
  · obtain rfl := Option.some.inj h
    rwa [List.length_reverse]
  · exact absurd h nofun

/-- In every layout a code point takes at least one byte. -/
theorem Layout.length_decode?_le {layout : Layout} {bytes : List UInt8} {text : Text}
    (h : layout.decode? bytes = some text) : text.length ≤ bytes.length := by
  cases layout with
  | bytes => exact Utf8.length_decode?_le h
  | units size order =>
    obtain ⟨units, hunits, h⟩ := Option.bind_eq_some_iff.mp h
    have hlength := Layout.length_units?_le hunits
    split at h
    · obtain rfl := Option.some.inj h
      exact Nat.le_trans (Units.length_toText_le units) hlength
    split at h
    · obtain rfl := Option.some.inj h
      rwa [List.length_map]
    · exact absurd h nofun

theorem length_withoutMark_le (mark bytes : List UInt8) :
    (withoutMark mark bytes).length ≤ bytes.length := by
  unfold withoutMark
  split
  · rw [List.length_drop]
    exact Nat.sub_le _ _
  · exact Nat.le_refl _

end Text

namespace Json

/-- No text in a value is longer than `n`. -/
def TextsFit (n : Nat) (v : Json) : Prop :=
  let leaf : Json → Bool
    | .string s => s.length ≤ n
    | _ => true
  v.all leaf (fun _ => true) = true

theorem textsFit_string (n : Nat) (s : Text) : TextsFit n (.string s) ↔ s.length ≤ n := by
  simp [TextsFit, all]

theorem textsFit_array (n : Nat) (items : List Json) :
    TextsFit n (.array items) ↔ ∀ v ∈ items, v.TextsFit n := by
  simp [TextsFit, all, allItems_eq_all]

theorem textsFit_object (n : Nat) (fields : List (Text × Json)) :
    TextsFit n (.object fields) ↔ ∀ f ∈ fields, f.2.TextsFit n := by
  simp [TextsFit, all, allFields_eq_all]

instance : Std.TransOrd CodePoint :=
  inferInstanceAs (Std.TransCmp (compareOn CodePoint.code))

namespace Reader

/-- Every value under a name was a value of some field. -/
theorem exists_of_mem_latest {done : List (Text × Json)} {name : Text} {v : Json}
    (h : (done.foldl (fun values field => values.insertIfNew field.1 field.2)
      (∅ : Std.TreeMap Text Json))[name]? = some v) : ∃ f ∈ done, f.2 = v := by
  induction done using List.reverseRecOn with
  | nil => simp at h
  | append_singleton done f ih =>
    rw [List.foldl_append, List.foldl_cons, List.foldl_nil, Std.TreeMap.getElem?_insertIfNew] at h
    split at h
    · exact ⟨f, by simp, Option.some.inj h⟩
    · obtain ⟨g, hg, hv⟩ := ih h
      exact ⟨g, List.mem_append_left _ hg, hv⟩

/-- Every field that is kept has the value of some field. -/
theorem exists_of_mem_kept {done fields : List (Text × Json)} {latest : Std.TreeMap Text Json}
    (hlatest : ∀ (name : Text) v, latest[name]? = some v → ∃ g ∈ done, g.2 = v)
    (hfields : fields ⊆ done) {kept : Kept} (hkept : ∀ f ∈ kept.2, ∃ g ∈ done, g.2 = f.2) :
    ∀ f ∈ (fields.foldl (Kept.add latest) kept).2, ∃ g ∈ done, g.2 = f.2 := by
  induction fields generalizing kept with
  | nil => exact hkept
  | cons field fields ih =>
    refine ih (fun f hf => hfields (List.mem_cons_of_mem _ hf)) ?_
    intro f hf
    unfold Kept.add at hf
    split at hf
    · exact hkept f hf
    rcases List.mem_cons.mp hf with rfl | hf
    · rw [Std.TreeMap.getD_eq_getD_getElem?]
      cases hv : latest[field.1]? with
      | none => exact ⟨field, hfields (List.mem_cons_self ..), rfl⟩
      | some v => exact hlatest _ v hv
    · exact hkept f hf

/-- An object has no values but those that were read. -/
theorem exists_of_mem_distinct {done : List (Text × Json)} {f : Text × Json}
    (h : f ∈ distinct done) : ∃ g ∈ done, g.2 = f.2 := by
  refine exists_of_mem_kept (fun _ _ => exists_of_mem_latest) ?_ ?_ f (List.mem_reverse.mp h)
  · exact fun g hg => List.mem_reverse.mp hg
  · exact fun g hg => absurd hg List.not_mem_nil

end Reader

/-- No text in a container under way is longer than `n`. -/
def Frame.Fits (n : Nat) : Frame → Prop
  | .items done => ∀ v ∈ done, v.TextsFit n
  | .fields done _ => ∀ f ∈ done, f.2.TextsFit n

/-- No text in a value under way is longer than `n`, and a string under way is no longer than
`k`. -/
def Mode.Fits (n k : Nat) : Mode → Prop
  | .finished v => v.TextsFit n
  | .inString _ scan _ => scan.settled.length ≤ k
  | .inWord _ v => v.TextsFit n
  | _ => True

/-- Nothing that has been read is longer than `n`, and a string under way is no longer than `k`. -/
structure Reader.Fits (n k : Nat) (reader : Reader) : Prop where
  /-- The containers that are not yet closed. -/
  frames : ∀ frame ∈ reader.frames, frame.Fits n
  /-- What is being read. -/
  mode : reader.mode.Fits n k

namespace Reader

variable {n k : Nat} {reader : Reader}

theorem Fits.expecting (h : reader.Fits n k) {mode : Mode} {k' : Nat} (hmode : mode.Fits n k') :
    (reader.expecting mode).Fits n k' :=
  ⟨h.frames, hmode⟩

/-- A value that fits is put where it belongs. -/
theorem Fits.complete (hframes : ∀ frame ∈ reader.frames, frame.Fits n) {v : Json}
    (hv : v.TextsFit n) : (reader.complete v).Fits n k := by
  unfold Reader.complete
  split
  · exact ⟨hframes, hv⟩
  · next done outer heq =>
    rw [heq, List.forall_mem_cons] at hframes
    refine ⟨List.forall_mem_cons.mpr ⟨?_, hframes.2⟩, trivial⟩
    exact List.forall_mem_cons.mpr ⟨hv, hframes.1⟩
  · next done name outer heq =>
    rw [heq, List.forall_mem_cons] at hframes
    refine ⟨List.forall_mem_cons.mpr ⟨?_, hframes.2⟩, trivial⟩
    exact List.forall_mem_cons.mpr ⟨hv, hframes.1⟩

/-- A container that closes is a value that fits. -/
theorem Fits.close (h : reader.Fits n k) {next : Reader} (hclose : reader.close = .ok next) :
    next.Fits n k := by
  have hframes := h.frames
  unfold Reader.close at hclose
  split at hclose
  · next done outer heq =>
    rw [heq, List.forall_mem_cons] at hframes
    obtain rfl := Except.ok.inj hclose
    refine .complete hframes.2 ((textsFit_array n _).mpr ?_)
    exact fun v hv => hframes.1 v (List.mem_reverse.mp hv)
  · next done name outer heq =>
    rw [heq, List.forall_mem_cons] at hframes
    obtain rfl := Except.ok.inj hclose
    refine .complete hframes.2 ((textsFit_object n _).mpr ?_)
    intro f hf
    obtain ⟨g, hg, hvalue⟩ := exists_of_mem_distinct hf
    exact hvalue ▸ hframes.1 g hg
  · exact absurd hclose nofun

theorem Fits.enter (h : reader.Fits n k) {frame : Frame} {mode : Mode} {next : Reader}
    (henter : reader.enter frame mode = .ok next) (hframe : frame.Fits n)
    (hmode : mode.Fits n k) : next.Fits n k := by
  unfold Reader.enter at henter
  split at henter
  · exact absurd henter nofun
  · obtain rfl := Except.ok.inj henter
    exact ⟨List.forall_mem_cons.mpr ⟨hframe, h.frames⟩, hmode⟩

/-- A value that starts holds no text yet. -/
theorem Fits.begin (h : reader.Fits n k) {c : CodePoint} {next : Reader}
    (hbegin : reader.begin c = .ok next) : next.Fits n k := by
  have hitems : (Frame.items []).Fits n := fun _ hv => absurd hv List.not_mem_nil
  have hfields : (Frame.fields [] []).Fits n := fun _ hf => absurd hf List.not_mem_nil
  unfold Reader.begin at hbegin
  split at hbegin
  · exact h.enter hbegin hitems trivial
  · exact h.enter hbegin hfields trivial
  · obtain rfl := Except.ok.inj hbegin
    exact h.expecting (Nat.zero_le _)
  · obtain rfl := Except.ok.inj hbegin
    exact h.expecting rfl
  · obtain rfl := Except.ok.inj hbegin
    exact h.expecting rfl
  · obtain rfl := Except.ok.inj hbegin
    exact h.expecting rfl
  · obtain rfl := Except.ok.inj hbegin
    exact h.expecting rfl
  · obtain rfl := Except.ok.inj hbegin
    exact h.expecting rfl
  · split at hbegin
    · obtain rfl := Except.ok.inj hbegin
      exact h.expecting trivial
    · exact absurd hbegin nofun

/-- Between values no text gets longer. -/
theorem Fits.readBetween (h : reader.Fits n k) {c : CodePoint} {next : Reader}
    (hread : reader.readBetween c = .ok next) : next.Fits n k := by
  unfold Reader.readBetween at hread
  split at hread
  · obtain rfl := Except.ok.inj hread
    exact h
  split at hread
  · exact h.begin hread
  · exact h.close hread
  · exact h.begin hread
  · exact h.close hread
  · obtain rfl := Except.ok.inj hread
    exact h.expecting (Nat.zero_le _)
  · obtain rfl := Except.ok.inj hread
    exact h.expecting (Nat.zero_le _)
  · obtain rfl := Except.ok.inj hread
    exact h.expecting trivial
  · obtain rfl := Except.ok.inj hread
    exact h.expecting trivial
  · exact h.close hread
  · obtain rfl := Except.ok.inj hread
    exact h.expecting trivial
  · exact h.close hread
  · exact absurd hread nofun

/-- A string that is complete fits like any other value. -/
theorem Fits.completeString (hframes : ∀ frame ∈ reader.frames, frame.Fits n) (isName : Bool)
    {s : Text} (hs : s.length ≤ n) : (reader.completeString isName s).Fits n k := by
  unfold Reader.completeString
  split
  · next done name outer heq =>
    rw [heq, List.forall_mem_cons] at hframes
    exact ⟨List.forall_mem_cons.mpr hframes, trivial⟩
  · exact .complete hframes ((textsFit_string n s).mpr hs)

/-- One more code point makes a string longer by one at most. -/
theorem Fits.readString (hframes : ∀ frame ∈ reader.frames, frame.Fits n) (isName : Bool)
    {scan : Text.Units.Scan} (hscan : scan.settled.length ≤ k) (hk : k ≤ n) (escape : Escape)
    {c : CodePoint} {next : Reader}
    (hread : reader.readString isName scan escape c = .ok next) : next.Fits n (k + 1) := by
  have hgo : ∀ (scan' : Text.Units.Scan) (escape' : Escape), scan'.settled.length ≤ k + 1 →
      (reader.expecting (.inString isName scan' escape')).Fits n (k + 1) :=
    fun _ _ hscan' => ⟨hframes, hscan'⟩
  have hpoint : ∀ d, (scan.point d).settled.length ≤ k + 1 := by
    intro d
    rw [Text.Units.length_point]
    omega
  unfold Reader.readString at hread
  dsimp only at hread
  split at hread
  · split at hread
    · obtain rfl := Except.ok.inj hread
      refine .completeString hframes isName ?_
      rw [Text.Units.Scan.text, List.length_reverse]
      omega
    split at hread
    · obtain rfl := Except.ok.inj hread
      exact hgo _ _ (by omega)
    split at hread
    · exact absurd hread nofun
    · obtain rfl := Except.ok.inj hread
      exact hgo _ _ (hpoint _)
  · split at hread
    · obtain rfl := Except.ok.inj hread
      exact hgo _ _ (by omega)
    split at hread
    · obtain rfl := Except.ok.inj hread
      exact hgo _ _ (hpoint _)
    · exact absurd hread nofun
  · split at hread
    · split at hread
      · obtain rfl := Except.ok.inj hread
        have hunit := Text.Units.length_unit_le scan
        exact hgo _ _ (Nat.le_trans (hunit _) (by omega))
      · obtain rfl := Except.ok.inj hread
        exact hgo _ _ (by omega)
    · exact absurd hread nofun

/-- A number holds no text. -/
theorem textsFit_number {literal : Text} {v : Json} (h : number literal = .ok v) :
    v.TextsFit n := by
  unfold number at h
  split at h
  · exact absurd h nofun
  split at h
  · exact absurd h nofun
  split at h
  · exact absurd h nofun
  split at h
  · exact Except.ok.inj h ▸ rfl
  · exact Except.ok.inj h ▸ rfl

/-- One more code point makes no text longer by more than one. -/
theorem Fits.read (h : reader.Fits n k) (hk : k ≤ n) {c : CodePoint} {next : Reader}
    (hread : reader.read c = .ok next) : next.Fits n (k + 1) := by
  have hbetween : ∀ {other : Reader}, other.Fits n (k + 1) → other.readBetween c = .ok next →
      next.Fits n (k + 1) := fun hother hnext => hother.readBetween hnext
  have hmode := h.mode
  unfold Reader.read at hread
  split at hread
  · next isName scan escape heq =>
    rw [heq] at hmode
    exact .readString h.frames isName hmode hk escape hread
  · next literal heq =>
    split at hread
    · obtain rfl := Except.ok.inj hread
      exact h.expecting trivial
    split at hread
    · obtain rfl := Except.ok.inj hread
      exact h.expecting rfl
    · cases hnumber : number literal.reverse with
      | error fault =>
        rw [hnumber] at hread
        exact absurd hread nofun
      | ok v =>
        rw [hnumber] at hread
        exact hbetween (.complete h.frames (textsFit_number hnumber)) hread
  · next d rest v heq =>
    rw [heq] at hmode
    split at hread
    · obtain rfl := Except.ok.inj hread
      split
      · exact .complete h.frames hmode
      · exact h.expecting hmode
    · exact absurd hread nofun
  · exact absurd hread nofun
  · next hstring _ _ _ =>
    -- No other mode depends on what has been read so far, so its bound holds as it is.
    refine hbetween ⟨h.frames, ?_⟩ hread
    cases hcases : reader.mode with
    | inString isName scan escape => exact absurd hcases (hstring isName scan escape)
    | inWord rest v =>
      rw [hcases] at hmode
      exact hmode
    | finished v =>
      rw [hcases] at hmode
      exact hmode
    | _ => trivial

/-- Reading a whole text makes no text longer than it. -/
theorem Fits.foldlM (h : reader.Fits n k) {text : Text} (hk : k + text.length ≤ n) {next : Reader}
    (hread : text.foldlM Reader.read reader = .ok next) : next.Fits n (k + text.length) := by
  -- `n` stays fixed while `k` counts, so that values already complete need no new bound.
  induction text generalizing reader k with
  | nil =>
    obtain rfl : reader = next := Except.ok.inj hread
    exact h
  | cons c text ih =>
    rw [List.length_cons] at hk
    rw [List.foldlM_cons] at hread
    cases hfirst : reader.read c with
    | error fault =>
      rw [hfirst] at hread
      exact absurd hread nofun
    | ok middle =>
      rw [hfirst] at hread
      have hmiddle := h.read (by omega) hfirst
      have hlast := ih hmiddle (by omega) hread
      rwa [List.length_cons, Nat.add_comm text.length 1, ← Nat.add_assoc]

theorem Fits.finish (h : reader.Fits n k) {v : Json} (hfinish : reader.finish = .ok v) :
    v.TextsFit n := by
  have hmode := h.mode
  unfold Reader.finish at hfinish
  split at hfinish
  · next w heq =>
    rw [heq] at hmode
    exact Except.ok.inj hfinish ▸ hmode
  · next literal heq =>
    cases hnumber : number literal.reverse with
    | error fault =>
      rw [hnumber] at hfinish
      exact absurd hfinish nofun
    | ok w =>
      rw [hnumber] at hfinish
      change (if _ then _ else _) = _ at hfinish
      split at hfinish
      · exact Except.ok.inj hfinish ▸ textsFit_number hnumber
      · exact absurd hfinish nofun
  · exact absurd hfinish nofun

end Reader

/-- No text in a value is longer than the text that spells the value. -/
theorem textsFit_ofText {depth : Nat} {text : Text} {v : Json} (h : ofText depth text = .ok v) :
    v.TextsFit text.length := by
  have hstart : (Reader.start depth).Fits text.length 0 :=
    ⟨fun _ hframe => absurd hframe List.not_mem_nil, trivial⟩
  unfold ofText at h
  cases hread : text.foldlM Reader.read (.start depth) with
  | error fault =>
    rw [hread] at h
    exact absurd h nofun
  | ok reader =>
    rw [hread] at h
    exact (hstart.foldlM (by omega) hread).finish h

/-- No text in a value is longer than there are bytes that spell the value. -/
theorem textsFit_ofBytes {depth : Nat} {bytes : List UInt8} {v : Json}
    (h : ofBytes depth bytes = .ok v) : ∃ n ≤ bytes.length, v.TextsFit n := by
  unfold ofBytes at h
  dsimp only at h
  split at h
  · next text htext =>
    refine ⟨text.length, ?_, textsFit_ofText h⟩
    exact Nat.le_trans (Text.Layout.length_decode?_le htext) (Text.length_withoutMark_le _ _)
  · exact absurd h nofun

end Json

end Crontab
