import Crontab.Proofs.Numeral
import Crontab.Proofs.Web.Address

/-!
# What the limit lets through

A request is refused for its size by the number in its header or by the number of bytes that it
brings, and the routes are given those bytes; how the bytes are cut into chunks does not matter.
Where they are counted it matters whether all of them come: the service fails if the client is gone
before. A header that does not look like a number is passed over. One that looks like a number and
cannot be read as one makes the service fail.
-/

namespace Crontab.Web

namespace Limit

/-- A header looks like a number: there is something in it, and all of it looks like digits. -/
def LooksNumeric (header : Text) : Prop := header ≠ [] ∧ ∀ c ∈ header, isDigitLike c = true

instance (header : Text) : Decidable (LooksNumeric header) := inferInstanceAs (Decidable (_ ∧ _))

/-- A header is a numeral that is short enough to be read. -/
structure IsLength (header : Text) : Prop where
  /-- There is a digit. -/
  ne_nil : header ≠ []
  /-- There is nothing but digits. -/
  digits : Numeral.Digits header
  /-- There are not too many of them. -/
  length_le : header.length ≤ 4300

/-- A header looks like a number and cannot be read: it has a superscript, or too many digits. -/
structure IsUnreadable (header : Text) : Prop where
  /-- It looks like a number. -/
  looks : LooksNumeric header
  /-- There is a superscript in it, or it is too long. -/
  obstacle : (∃ c ∈ header, c ∈ superscripts) ∨ 4300 < header.length

/-- Whatever looks like a digit is one or is a superscript. -/
theorem isDigitLike_iff (c : CodePoint) :
    isDigitLike c = true ↔ c.isDigit = true ∨ c ∈ superscripts := by
  rw [isDigitLike, Bool.or_eq_true, List.contains_iff_mem]

theorem isDigit_of_mem_superscripts {c : CodePoint} (h : c ∈ superscripts) :
    c.isDigit = false := by
  have hall : ∀ c ∈ superscripts, c.isDigit = false := by decide
  exact hall c h

theorem IsLength.looksNumeric {header : Text} (h : IsLength header) : LooksNumeric header :=
  ⟨h.ne_nil, fun c hc => (isDigitLike_iff c).mpr (Or.inl (h.digits c hc))⟩

/-- A header that looks like a number is a length or cannot be read, and not both. -/
theorem isUnreadable_iff (header : Text) :
    IsUnreadable header ↔ LooksNumeric header ∧ ¬IsLength header := by
  constructor
  · rintro ⟨hlooks, hobstacle⟩
    refine ⟨hlooks, fun hlength => ?_⟩
    rcases hobstacle with ⟨c, hc, hsuper⟩ | hlong
    · exact absurd (hlength.digits c hc) (by rw [isDigit_of_mem_superscripts hsuper]; decide)
    · exact absurd hlength.length_le (by omega)
  · rintro ⟨hlooks, hlength⟩
    refine ⟨hlooks, ?_⟩
    by_contra hnone
    rw [not_or, not_exists] at hnone
    refine hlength ⟨hlooks.1, fun c hc => ?_, by omega⟩
    exact ((isDigitLike_iff c).mp (hlooks.2 c hc)).resolve_right fun hsuper =>
      hnone.1 c ⟨hc, hsuper⟩

/-- A header that does not look like a number announces nothing. -/
theorem announced_of_not_looksNumeric {header : Text} (h : ¬LooksNumeric header) :
    announced header = .nothing := by
  have hnothing : (header.isEmpty || !header.all isDigitLike) = true := by
    rw [LooksNumeric, not_and_or, not_not] at h
    simpa using h
  rw [announced, if_pos hnothing]

/-- A header that looks like a number is taken for one. -/
theorem announced_of_looksNumeric {header : Text} (h : LooksNumeric header) :
    announced header =
      if header.all CodePoint.isDigit && header.length ≤ maxDigits then
        .length (Numeral.value header)
      else .unreadable := by
  have hsomething : (header.isEmpty || !header.all isDigitLike) = false := by
    simpa [LooksNumeric] using h
  rw [announced, hsomething, if_neg Bool.false_ne_true]

/-- A header that is a length announces its value. -/
theorem IsLength.announced {header : Text} (h : IsLength header) :
    Limit.announced header = .length (Numeral.value header) := by
  have hread : (header.all CodePoint.isDigit && decide (header.length ≤ maxDigits)) = true := by
    rw [Bool.and_eq_true, List.all_eq_true, decide_eq_true_iff]
    exact ⟨h.digits, h.length_le⟩
  rw [announced_of_looksNumeric h.looksNumeric, if_pos hread]

/-- A header that cannot be read is noticed. -/
theorem IsUnreadable.announced {header : Text} (h : IsUnreadable header) :
    Limit.announced header = .unreadable := by
  obtain ⟨hlooks, hlength⟩ := (isUnreadable_iff header).mp h
  have hread : ¬(header.all CodePoint.isDigit && decide (header.length ≤ maxDigits)) = true := by
    intro hread
    simp only [Bool.and_eq_true, List.all_eq_true, decide_eq_true_eq] at hread
    exact hlength ⟨hlooks.1, hread.1, hread.2⟩
  rw [announced_of_looksNumeric hlooks, if_neg hread]

/-- Chunks are collected if they fit together with those taken, in their order. -/
theorem collect_eq {taken : List (List UInt8)} {total : Nat} (htotal : total ≤ maxBody)
    (chunks : List (List UInt8)) :
    collect taken total chunks =
      if total + chunks.flatten.length ≤ maxBody then some (taken.reverse.flatten ++ chunks.flatten)
      else none := by
  induction chunks generalizing taken total with
  | nil => simp [collect, htotal]
  | cons chunk chunks ih =>
    rw [collect, List.flatten_cons, List.length_append, ← Nat.add_assoc]
    split
    · next hfits => simp [ih hfits]
    · next hover => rw [if_neg (by omega)]

end Limit

/-- The header of a request is a number above the limit. -/
def Request.AnnouncesTooMuch (request : Request) : Prop :=
  ∃ header ∈ request.contentLength, Limit.IsLength header ∧ 1048576 < Numeral.value header

/-- The bytes of a request are counted, and there are more than the limit allows. -/
def Request.BringsTooMuch (request : Request) : Prop :=
  request.method ∈ ["POST", "PUT", "PATCH"] ∧ 1048576 < request.arrival.bytes.length

/-- The header of a request, if it has one, can be read or is passed over. -/
def Request.IsLegible (request : Request) : Prop :=
  ∀ header ∈ request.contentLength, ¬Limit.LooksNumeric header ∨ Limit.IsLength header

/-- A request is too large by its header or by its bytes. -/
def Request.IsTooLarge (request : Request) : Prop :=
  request.AnnouncesTooMuch ∨ request.BringsTooMuch

/-- The bytes of a request are counted, but the client is gone before all of them have come. -/
def Request.IsAbandoned (request : Request) : Prop :=
  request.method ∈ ["POST", "PUT", "PATCH"] ∧ request.arrival.isBroken = true

instance (request : Request) : Decidable request.IsAbandoned :=
  inferInstanceAs (Decidable (_ ∧ _))

/-- A request whose body arrives in another way. -/
def Request.arriving (request : Request) (arrival : Arrival) : Request := { request with arrival }

/-- A request with another header, or none. -/
def Request.announcing (request : Request) (header : Option Text) : Request :=
  { request with contentLength := header }

/-- A header that can be read or is passed over, put in front of any request. -/
theorem Request.isLegible_announcing (request : Request) {header : Text}
    (h : ¬Limit.LooksNumeric header ∨ Limit.IsLength header) :
    (request.announcing (some header)).IsLegible := by
  rintro other ⟨⟩
  exact h

namespace Limit

section Count

variable {request : Request}

theorem count_of_counted (h : request.method ∈ ["POST", "PUT", "PATCH"]) :
    count request =
      if request.arrival.bytes.length ≤ maxBody then
        if request.arrival.isBroken then .abandoned else .admitted request.arrival.bytes
      else .tooLarge := by
  have hcounted : countedMethods.contains request.method = true := List.contains_iff_mem.mpr h
  rw [count, if_pos hcounted, collect_eq (Nat.zero_le _), Nat.zero_add, ← Arrival.bytes]
  by_cases hfits : request.arrival.bytes.length ≤ maxBody
  · rw [if_pos hfits, if_pos hfits]
    rfl
  · rw [if_neg hfits, if_neg hfits]

/-- Bytes that are counted and let through are within the limit. -/
theorem length_le_of_count {body : List UInt8} (h : request.method ∈ ["POST", "PUT", "PATCH"])
    (hcount : count request = .admitted body) : body.length ≤ maxBody := by
  rw [count_of_counted h] at hcount
  split at hcount
  · next hfits =>
    split at hcount
    · cases hcount
    · exact Verdict.admitted.inj hcount ▸ hfits
  · cases hcount

/-- Too many bytes are noticed, in whichever chunks they come, and whatever comes after them. -/
theorem count_of_bringsTooMuch (h : request.BringsTooMuch) : count request = .tooLarge := by
  rw [count_of_counted h.1]
  exact if_neg (Nat.not_le.mpr h.2)

/-- Where there are not too many bytes, it is noticed that the client is gone. -/
theorem count_of_isAbandoned (hfew : ¬request.BringsTooMuch) (h : request.IsAbandoned) :
    count request = .abandoned := by
  have hfits : request.arrival.bytes.length ≤ maxBody :=
    Nat.not_lt.mp fun hmany => hfew ⟨h.1, hmany⟩
  rw [count_of_counted h.1, if_pos hfits, if_pos h.2]

/-- Bytes that are not too many and all there, or not counted, are let through in their order. -/
theorem count_of_not (hfew : ¬request.BringsTooMuch) (hsent : ¬request.IsAbandoned) :
    count request = .admitted request.arrival.bytes := by
  by_cases hmethod : request.method ∈ ["POST", "PUT", "PATCH"]
  · have hfits : request.arrival.bytes.length ≤ maxBody :=
      Nat.not_lt.mp fun hmany => hfew ⟨hmethod, hmany⟩
    rw [count_of_counted hmethod, if_pos hfits, if_neg fun hbroken => hsent ⟨hmethod, hbroken⟩]
  · have huncounted : ¬countedMethods.contains request.method = true := fun hcounted =>
      hmethod (List.contains_iff_mem.mp hcounted)
    rw [count, if_neg huncounted]

end Count

/-- A number above the limit in the header is enough. -/
theorem verdict_of_announcesTooMuch {request : Request} (h : request.AnnouncesTooMuch) :
    verdict request = .tooLarge := by
  obtain ⟨header, hheader, hlength, hvalue⟩ := h
  rw [Option.mem_def] at hheader
  simp only [verdict, hheader, Option.map_some, hlength.announced]
  exact if_pos hvalue

theorem verdict_of_isUnreadable {request : Request} {header : Text}
    (hheader : request.contentLength = some header) (h : IsUnreadable header) :
    verdict request = .unreadable := by
  simp only [verdict, hheader, Option.map_some, h.announced]

/-- Behind a header that announces nothing too large the bytes decide. -/
theorem verdict_eq_count {request : Request} (hlegible : request.IsLegible)
    (h : ¬request.AnnouncesTooMuch) : verdict request = count request := by
  rw [verdict]
  cases hheader : request.contentLength with
  | none => rfl
  | some header =>
    rcases hlegible header hheader with hlooks | hlength
    · rw [Option.map_some, announced_of_not_looksNumeric hlooks]
    · have hvalue : ¬maxBody < Numeral.value header := fun hvalue =>
        h ⟨header, hheader, hlength, hvalue⟩
      rw [Option.map_some, hlength.announced]
      exact if_neg hvalue

end Limit

/-- The answers of the routes. -/
inductive Response.IsRouted : Response → Prop where
  /-- A page was asked for. -/
  | page (p : Page) : IsRouted (.page p)
  /-- The request was granted. -/
  | granted {status : Nat} (h : status = 200 ∨ status = 201) (p : Payload) :
    IsRouted (.granted status p)
  /-- It was granted, and there is nothing to say. -/
  | noContent : IsRouted .noContent
  /-- It was wrong. -/
  | invalid (reach : Reach) (ps : List Problem) : IsRouted (.invalid reach ps)
  /-- Its body could not be taken in. -/
  | unreadableBody : IsRouted .unreadableBody
  /-- The store was never set up. -/
  | noStore : IsRouted (.failure .noStore)
  /-- The document is not open. -/
  | documentNotFound (id : Text) : IsRouted (.documentNotFound id)
  /-- The path is there for another method. -/
  | methodNotAllowed (allow : List String) : IsRouted (.methodNotAllowed allow)
  /-- The path is there without the slashes at its end. -/
  | redirect (location : Text) : IsRouted (.redirect location)
  /-- The path stands for nothing. -/
  | notFound : IsRouted .notFound

/-- The answers of the limit: a body too large, a header that cannot be read, a client that is
gone. -/
def Response.IsOfLimit (response : Response) : Prop :=
  response.status = 413 ∨ response.answer = .failure .contentLength ∨
    response.answer = .failure .abandoned

/-- No route answers as the limit does. -/
theorem Response.not_isOfLimit_of_isRouted {response : Response} (h : response.IsRouted) :
    ¬response.IsOfLimit := by
  cases h with
  | page p => simp [IsOfLimit, page]
  | @granted status h p =>
    unfold granted
    rcases h with rfl | rfl <;> split <;> simp [IsOfLimit, json, failure]
  | invalid reach ps =>
    unfold invalid
    dsimp only
    split
    · next obstacle _ => cases obstacle <;> simp [IsOfLimit, failure, obstructed]
    · simp [IsOfLimit, json]
  | noContent => simp [IsOfLimit, noContent]
  | unreadableBody => simp [IsOfLimit, unreadableBody, json]
  | noStore => simp [IsOfLimit, failure]
  | documentNotFound id => simp [IsOfLimit, documentNotFound, json]
  | methodNotAllowed allow => simp [IsOfLimit, methodNotAllowed, json]
  | redirect location => simp [IsOfLimit, redirect]
  | notFound => simp [IsOfLimit, notFound, json]

namespace App

section Routes

variable {app : App}

theorem isRouted_answer {response : Response} (h : response.IsRouted) :
    (app.answer response).answer.IsRouted :=
  h

theorem isRouted_look {α : Type} (id : Text) (found : Except Store.NotOpen α)
    (payload : α → Payload) : (app.look id found payload).answer.IsRouted := by
  cases found with
  | ok a => exact .granted (Or.inl rfl) (payload a)
  | error e => exact .documentNotFound id

theorem isRouted_checked {α : Type} {reach : Reach} {value : Checked α}
    {next : α → Step App Response} (h : ∀ a, (next a).answer.IsRouted) :
    (app.checked reach value next).answer.IsRouted := by
  cases value with
  | ok a => exact h a
  | failed ps => exact .invalid reach ps

theorem isRouted_withContent {request : Request} {body : List UInt8}
    {next : Content → Step App Response} (h : ∀ content, (next content).answer.IsRouted) :
    (app.withContent request body next).answer.IsRouted := by
  unfold withContent
  split
  · exact h _
  · exact isRouted_answer (.invalid _ _)
  · exact isRouted_answer .unreadableBody

theorem isRouted_withStore {next : Store → Step App Response}
    (h : ∀ store, (next store).answer.IsRouted) : (app.withStore next).answer.IsRouted := by
  unfold withStore
  split
  · exact h _
  · exact isRouted_answer .noStore

theorem isRouted_view (request : Request) (store : Store) (id : Text) (v : View) :
    (app.view request store id v).answer.IsRouted := by
  cases v with
  | hover => exact isRouted_checked fun _ => isRouted_look id _ _
  | _ => exact isRouted_look id _ _

theorem isRouted_serve (request : Request) (body : List UInt8) (e : Endpoint) :
    (app.serve request body e).answer.IsRouted := by
  cases e with
  | page p => exact isRouted_answer (.page p)
  | health => exact isRouted_answer (.granted (Or.inl rfl) _)
  | validate =>
    exact isRouted_withContent fun _ => isRouted_checked fun _ => .granted (Or.inl rfl) _
  | load =>
    exact isRouted_withContent fun _ => isRouted_withStore fun _ => isRouted_checked fun _ =>
      .granted (Or.inr rfl) _
  | list => exact isRouted_withStore fun _ => .granted (Or.inl rfl) _
  | change id =>
    refine isRouted_withContent fun _ => isRouted_withStore fun _ => isRouted_checked fun _ => ?_
    unfold change
    split
    · exact .granted (Or.inl rfl) _
    · exact .documentNotFound id
  | close id =>
    refine isRouted_withStore fun _ => ?_
    unfold close
    split
    · exact .noContent
    · exact .documentNotFound id
  | view id v => exact isRouted_withStore fun store => isRouted_view request store id v

/-- Behind the limit every request is answered by a route. -/
theorem isRouted_route (request : Request) (body : List UInt8) :
    (app.route request body).answer.IsRouted := by
  unfold route
  split
  · split
    · exact isRouted_serve request body _
    · exact .methodNotAllowed _
  · split
    · exact .redirect _
    · exact .notFound

end Routes

section Readable

variable {request : Request}

/-- A request behind a header that can be read or is passed over is refused if it is too large. -/
theorem step_of_isTooLarge (app : App) (hlegible : request.IsLegible)
    (h : request.IsTooLarge) : app.step request = app.answer (.tooLarge 1048576) := by
  by_cases hannounces : request.AnnouncesTooMuch
  · rw [step, Limit.verdict_of_announcesTooMuch hannounces]
    rfl
  · rw [step, Limit.verdict_eq_count hlegible hannounces,
      Limit.count_of_bringsTooMuch (h.resolve_left hannounces)]
    rfl

/-- It fails if the client is gone. -/
theorem step_of_isAbandoned (app : App) (hlegible : request.IsLegible)
    (h : ¬request.IsTooLarge) (habandoned : request.IsAbandoned) :
    app.step request = app.answer (.failure .abandoned) := by
  rw [step, Limit.verdict_eq_count hlegible fun hannounces => h (Or.inl hannounces),
    Limit.count_of_isAbandoned (fun hbrings => h (Or.inr hbrings)) habandoned]

/-- Otherwise it comes to the routes. -/
theorem step_eq_route (app : App) (hlegible : request.IsLegible)
    (h : ¬request.IsTooLarge) (hsent : ¬request.IsAbandoned) :
    app.step request = app.route request request.arrival.bytes := by
  rw [step, Limit.verdict_eq_count hlegible fun hannounces => h (Or.inl hannounces),
    Limit.count_of_not (fun hbrings => h (Or.inr hbrings)) hsent]

end Readable

/-- What the limit does with a request whose header can be read or is passed over. -/
structure Limited (app : App) (request : Request) (taken : Step App Response) : Prop where
  /-- The status tells whether the request is too large. -/
  status_iff : taken.answer.status = 413 ↔ request.IsTooLarge
  /-- A request that is too large is refused, and nothing else happens. -/
  refused : request.IsTooLarge → taken = app.answer (.tooLarge 1048576)
  /-- Any other request comes to the routes, with its chunks one after the other. -/
  admitted : ¬request.IsTooLarge → ¬request.IsAbandoned →
    taken = app.route request request.arrival.bytes
  /-- If the client is gone, the service fails, and nothing else happens. -/
  abandoned : ¬request.IsTooLarge → request.IsAbandoned → taken = app.answer (.failure .abandoned)
  /-- It does not fail in this way otherwise. -/
  abandoned_iff : taken.answer = .failure .abandoned ↔ ¬request.IsTooLarge ∧ request.IsAbandoned
  /-- The same bytes in other chunks are dealt with in the same way. -/
  recut : ∀ arrival : Arrival, arrival.bytes = request.arrival.bytes →
    ((request.arriving arrival).IsAbandoned ↔ request.IsAbandoned) →
      app.step (request.arriving arrival) = taken

/-- The size of a request does not depend on its chunks. -/
theorem isTooLarge_arriving {request : Request} {arrival : Arrival}
    (h : arrival.bytes = request.arrival.bytes) :
    (request.arriving arrival).IsTooLarge ↔ request.IsTooLarge := by
  simp only [Request.IsTooLarge, Request.AnnouncesTooMuch, Request.BringsTooMuch, Request.arriving,
    h]

/-- The routes do not see the chunks. -/
theorem route_arriving (app : App) (request : Request) (arrival : Arrival) (body : List UInt8) :
    app.route (request.arriving arrival) body = app.route request body :=
  rfl

/-- A service in any state refuses a request for its size exactly if its header or its bytes are too
many, and lets the bytes of all others through, unless they are counted and the client is gone. The
chunks in which the bytes come make no difference. -/
theorem limited_step (app : App) {request : Request} (hlegible : request.IsLegible) :
    Limited app request (app.step request) := by
  constructor
  · constructor
    · intro hstatus
      by_contra h
      by_cases hgone : request.IsAbandoned
      · rw [step_of_isAbandoned app hlegible h hgone] at hstatus
        exact absurd hstatus (by simp [answer, Response.failure])
      · rw [step_eq_route app hlegible h hgone] at hstatus
        exact Response.not_isOfLimit_of_isRouted (isRouted_route _ _) (Or.inl hstatus)
    · intro h
      rw [step_of_isTooLarge app hlegible h]
      rfl
  · exact step_of_isTooLarge app hlegible
  · exact step_eq_route app hlegible
  · exact step_of_isAbandoned app hlegible
  · constructor
    · intro hanswer
      have hfailure := congrArg Response.answer hanswer
      by_cases h : request.IsTooLarge
      · rw [step_of_isTooLarge app hlegible h] at hfailure
        cases hfailure
      · by_contra hnot
        rw [step_eq_route app hlegible h fun hgone => hnot ⟨h, hgone⟩] at hfailure
        exact Response.not_isOfLimit_of_isRouted (isRouted_route _ _) (Or.inr (Or.inr hfailure))
    · rintro ⟨h, hgone⟩
      rw [step_of_isAbandoned app hlegible h hgone]
      rfl
  · intro arrival hbytes hgone
    have hlarge := isTooLarge_arriving hbytes
    have hlegible' : (request.arriving arrival).IsLegible := hlegible
    by_cases h : request.IsTooLarge
    · rw [step_of_isTooLarge app hlegible h, step_of_isTooLarge app hlegible' (hlarge.mpr h)]
    by_cases habandoned : request.IsAbandoned
    · rw [step_of_isAbandoned app hlegible h habandoned,
        step_of_isAbandoned app hlegible' (mt hlarge.mp h) (hgone.mpr habandoned)]
    · rw [step_eq_route app hlegible h habandoned,
        step_eq_route app hlegible' (mt hlarge.mp h) (mt hgone.mp habandoned), route_arriving]
      exact congrArg _ hbytes

/-- A request to check a text that comes in three chunks, the first of them empty, behind a header
that is too small for it. -/
theorem limited_step_three_chunks :
    let bytes := fun s => Text.Utf8.encode (Text.ofString s)
    let app := start [] (.even 100)
    let request := ((Request.sending "POST" "/validate" "").arriving
      (.whole [[], bytes "\x7b\"text\": ", bytes "\"# m\"\x7d"])).announcing
        (some (.ofString "0007"))
    request.IsLegible ∧ (app.step request).answer = .json 200 (.verdict []) ∧
      app.step (request.arriving (.whole [bytes "\x7b\"text\": \"# m\"\x7d"])) =
        app.step request := by
  intro bytes app request
  have hlegible : request.IsLegible :=
    Request.isLegible_announcing _ (Or.inr ⟨by decide, by decide, by decide⟩)
  refine ⟨hlegible, by decide +kernel, ?_⟩
  exact (limited_step app hlegible).recut _ (by decide +kernel) (by decide)

/-- A client that is gone before any chunk has come makes the service fail, where an empty body is
answered. -/
theorem abandoned_without_chunk :
    let request := Request.sending "POST" "/validate" ""
    let gone := request.arriving (.broken [])
    request.contentLength = none ∧ gone.arrival.bytes = request.arrival.bytes ∧
      ((start [] (.even 100)).step request).answer.status = 422 ∧
      ((start [] (.even 100)).step gone).answer = .failure .abandoned := by
  decide +kernel

/-- What the limit does with a request behind a given header. -/
structure Heeds (app : App) (request : Request) (header : Text) (taken : Step App Response) :
    Prop where
  /-- The service fails at a header exactly if it looks like a number and cannot be read. -/
  fails_iff : taken.answer = .failure .contentLength ↔ Limit.IsUnreadable header
  /-- Nothing else happens then. -/
  fails : Limit.IsUnreadable header → taken = app.answer (.failure .contentLength)
  /-- A number above the limit has the request refused, whatever it brings. -/
  refused : Limit.IsLength header → 1048576 < Numeral.value header →
    taken = app.answer (.tooLarge 1048576)
  /-- A number within the limit makes no difference. -/
  within : Limit.IsLength header → Numeral.value header ≤ 1048576 →
    taken = app.step (request.announcing none)
  /-- Nor does a header that does not look like a number. -/
  passedOver : ¬Limit.LooksNumeric header → taken = app.step (request.announcing none)

/-- A header that announces nothing too large may as well not be there. -/
theorem step_announcing (app : App) (request : Request) {header : Text}
    (h : ¬Limit.LooksNumeric header ∨
      Limit.IsLength header ∧ Numeral.value header ≤ 1048576) :
    app.step (request.announcing (some header)) = app.step (request.announcing none) := by
  have hlegible := request.isLegible_announcing (h.imp id And.left)
  have hfew : ¬(request.announcing (some header)).AnnouncesTooMuch := by
    rintro ⟨other, ⟨⟩, hlength, hvalue⟩
    rcases h with hlooks | ⟨_, hle⟩
    · exact hlooks hlength.looksNumeric
    · omega
  have hlegible' : (request.announcing none).IsLegible := by
    rintro other ⟨⟩
  have hnone : ¬(request.announcing none).AnnouncesTooMuch := by
    rintro ⟨other, ⟨⟩, _⟩
  rw [step, step, Limit.verdict_eq_count hlegible hfew, Limit.verdict_eq_count hlegible' hnone]
  rfl

/-- A header that can be read or is passed over does not make the service fail. -/
theorem answer_step_ne {request : Request} (app : App) (hlegible : request.IsLegible) :
    (app.step request).answer.answer ≠ .failure .contentLength := by
  by_cases h : request.IsTooLarge
  · rw [step_of_isTooLarge app hlegible h]
    exact nofun
  by_cases hgone : request.IsAbandoned
  · rw [step_of_isAbandoned app hlegible h hgone]
    exact nofun
  · rw [step_eq_route app hlegible h hgone]
    exact fun hanswer => Response.not_isOfLimit_of_isRouted (isRouted_route _ _)
      (Or.inr (Or.inl hanswer))

/-- In any state of the service and for any request, the service fails at the header only if it is
made of digits and superscripts and has a superscript or too many digits. Any other header is read
as the number that it is or passed over. -/
theorem heeds_header (app : App) (request : Request) (header : Text) :
    Heeds app request header (app.step (request.announcing (some header))) := by
  have hfails : Limit.IsUnreadable header →
      app.step (request.announcing (some header)) = app.answer (.failure .contentLength) := by
    intro h
    rw [step, Limit.verdict_of_isUnreadable rfl h]
  constructor
  · constructor
    · intro hanswer
      rw [Limit.isUnreadable_iff]
      by_contra hread
      rw [not_and_or, not_not] at hread
      exact answer_step_ne app (request.isLegible_announcing hread)
        (congrArg Response.answer hanswer)
    · intro h
      rw [hfails h]
      rfl
  · exact hfails
  · intro hlength hvalue
    exact step_of_isTooLarge app (request.isLegible_announcing (Or.inr hlength))
      (Or.inl ⟨header, rfl, hlength, hvalue⟩)
  · exact fun hlength hvalue => step_announcing app request (Or.inr ⟨hlength, hvalue⟩)
  · exact fun hlooks => step_announcing app request (Or.inl hlooks)

/-- A superscript in the header makes the service fail where it would answer without the header. -/
theorem fails_at_superscript :
    let request := Request.sending "GET" "/health" ""
    Numeral.isNumeral [.char '²'] = false ∧
      ((start [] (.even 100)).step request).answer = .json 200 .health ∧
      ((start [] (.even 100)).step (request.announcing (some [.char '²']))).answer =
        .failure .contentLength := by
  decide +kernel

end App

end Crontab.Web
