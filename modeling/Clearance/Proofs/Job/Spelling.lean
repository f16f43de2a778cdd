import Clearance.Job.Progress
import Clearance.Proofs.Session.Course
import Clearance.Proofs.Text.Numeral

/-!
# Spellings of a handle

A handle may be spelled in letters of either case, with hyphens anywhere between its digits or
without any, in braces and behind the mark `urn:uuid:`. Every spelling is read as the handle, the
one that is written is among them, and so requests that spell the handle of one job differently are
answered alike. What is read is always a number of 128 bits: a text that has as many characters as a
handle has digits is refused only if it is no numeral.
-/

set_option autoImplicit false

namespace Clearance

namespace Handle

open Clearance.Text

/-- The mark that may stand in front of a handle. -/
def mark : List Char := "urn:uuid:".toList

/-- A text has the digits of a handle, in letters of either case and with hyphens anywhere. -/
def IsWritten (handle : Handle) (text : List Char) : Prop :=
  (text.filter (· != '-')).map Char.toLower = handle.digits

instance (handle : Handle) (text : List Char) : Decidable (handle.IsWritten text) :=
  inferInstanceAs (Decidable (_ = _))

/-- A text spells a handle: it has the digits, and around them there may be marks and braces. -/
inductive IsSpelling (handle : Handle) : List Char → Prop where
  | plain {text : List Char} (h : handle.IsWritten text) : IsSpelling handle text
  | marked {text : List Char} (h : IsSpelling handle text) : IsSpelling handle (mark ++ text)
  | braced {text : List Char} (h : IsSpelling handle text) :
    IsSpelling handle ('\x7b' :: (text ++ ['\x7d']))

variable {handle : Handle} {text : List Char}

/-! ## The digits of a handle -/

theorem isDigitOf_of_mem_digits : ∀ c ∈ handle.digits, IsDigitOf 16 c ∧ c.toLower = c := by
  intro c hc
  rcases List.mem_append.1 hc with hzero | hdigit
  · rw [List.eq_of_mem_replicate hzero]
    exact ⟨⟨0, by decide, rfl⟩, rfl⟩
  · exact isDigitOf_of_mem_toDigits c hdigit

theorem length_digits (hbound : handle.value < bound) : handle.digits.length = width := by
  have hfew := (Nat.length_toDigits_le_iff (b := 16) (by decide) (by decide : 0 < width)).2
    (show handle.value < 16 ^ width from hbound)
  rw [digits, List.length_leftpad]
  exact Nat.max_eq_left hfew

/-- The digits of a handle write its number. -/
theorem ofDigits_digits (handle : Handle) :
    ofDigits 16 (handle.digits.map digitOf) = handle.value := by
  have hzeros : ∀ count, ofDigits 16 ((List.replicate count '0').map digitOf) = 0 := by
    intro count
    rw [List.map_replicate]
    exact ofDigits_replicate_zero 16 count
  rw [digits, List.leftpad, List.map_append, ofDigits_append, hzeros, Nat.zero_mul, Nat.zero_add]
  exact ofDigits_toDigits handle.value

/-- The case of a letter makes no difference for the digit that it writes. -/
theorem digitValue?_toLower (c : Char) : digitValue? c.toLower = digitValue? c := by
  by_cases hupper : 'A' ≤ c ∧ c ≤ 'Z'
  · have hletters : ∀ n < 128, digitValue? (Char.ofNat n).toLower = digitValue? (Char.ofNat n) := by
      decide
    have hsmall : c.toNat < 128 := Nat.lt_of_le_of_lt hupper.2 (by decide)
    have h := hletters c.toNat hsmall
    rwa [Char.ofNat_toNat] at h
  · have hsame : c.toLower = c := by
      exact dif_neg hupper
    rw [hsame]

/-- A character that is a digit of a handle but for its case writes a digit. -/
theorem isDigitOf_of_map_toLower (h : text.map Char.toLower = handle.digits) :
    ∀ c ∈ text, IsDigitOf 16 c := by
  intro c hc
  have hmem : c.toLower ∈ handle.digits := h ▸ List.mem_map_of_mem hc
  obtain ⟨digit, hsmall, hvalue⟩ := (isDigitOf_of_mem_digits _ hmem).1
  exact ⟨digit, hsmall, digitValue?_toLower c ▸ hvalue⟩

theorem IsWritten.isDigitOf (h : handle.IsWritten text) {c : Char} (hc : c ∈ text)
    (hhyphen : c ≠ '-') : IsDigitOf 16 c :=
  isDigitOf_of_map_toLower h c (List.mem_filter.2 ⟨hc, by simpa using hhyphen⟩)

/-- No character that writes no digit is in a written handle, but for the hyphen. -/
theorem IsWritten.not_mem (h : handle.IsWritten text) {c : Char} (hhyphen : c ≠ '-')
    (hc : ¬IsDigitOf 16 c) : c ∉ text := fun hmem => hc (h.isDigitOf hmem hhyphen)

/-! ## What is taken out of a text -/

theorem without_append {first : Char} {part front : List Char} (h : first ∉ front)
    (rest : List Char) : without (first :: part) (front ++ rest) =
      front ++ without (first :: part) rest := by
  induction front with
  | nil => rfl
  | cons c front ih =>
    rw [List.mem_cons, not_or] at h
    have hhere : (first :: part).isPrefixOf (c :: (front ++ rest)) = false := by
      rw [List.isPrefixOf_cons_cons, beq_eq_false_iff_ne.2 h.1, Bool.false_and]
    rw [List.cons_append, without, withoutFrom, hhere, if_neg Bool.false_ne_true]
    exact congrArg (c :: ·) (ih h.2)

/-- A text without the two parts of the mark. -/
def unmarked (text : List Char) : List Char := without "uuid:".toList (without "urn:".toList text)

theorem unmarked_mark (rest : List Char) : unmarked (mark ++ rest) = unmarked rest := rfl

theorem unmarked_append {front : List Char} (h : 'u' ∉ front) (rest : List Char) :
    unmarked (front ++ rest) = front ++ unmarked rest := by
  have hurn : without "urn:".toList (front ++ rest) = front ++ without "urn:".toList rest :=
    without_append h rest
  have huuid : without "uuid:".toList (front ++ without "urn:".toList rest) =
      front ++ without "uuid:".toList (without "urn:".toList rest) := without_append h _
  rw [unmarked, hurn, huuid]
  rfl

theorem unmarked_of_not_mem (h : 'u' ∉ text) : unmarked text = text := by
  have hall := unmarked_append h []
  rwa [List.append_nil, show unmarked [] = [] from rfl, List.append_nil] at hall

/-- Without its marks a spelling is a written handle between braces. What follows a spelling stays
as it is if no mark can begin in it. -/
theorem IsSpelling.exists_unmarked (h : handle.IsSpelling text) :
    ∃ opening body closing, (∀ c ∈ opening, isBrace c = true) ∧ handle.IsWritten body ∧
      (∀ c ∈ closing, isBrace c = true) ∧
      ∀ rest, 'u' ∉ rest → unmarked (text ++ rest) = opening ++ (body ++ (closing ++ rest)) := by
  induction h with
  | @plain text h =>
    refine ⟨[], text, [], nofun, h, nofun, fun rest hrest => ?_⟩
    have hnone : 'u' ∉ text := by
      refine h.not_mem (by decide) ?_
      rintro ⟨digit, hsmall, hvalue⟩
      cases hvalue
      exact absurd hsmall (by decide)
    exact unmarked_of_not_mem fun hmem => (List.mem_append.1 hmem).elim hnone hrest
  | marked _ ih =>
    obtain ⟨opening, body, closing, hopening, hbody, hclosing, hunmarked⟩ := ih
    refine ⟨opening, body, closing, hopening, hbody, hclosing, fun rest hrest => ?_⟩
    rw [List.append_assoc, unmarked_mark, hunmarked rest hrest]
  | @braced text _ ih =>
    obtain ⟨opening, body, closing, hopening, hbody, hclosing, hunmarked⟩ := ih
    refine ⟨'\x7b' :: opening, body, closing ++ ['\x7d'], List.forall_mem_cons.2 ⟨rfl, hopening⟩,
      hbody, ?_, fun rest hrest => ?_⟩
    · intro c hc
      rcases List.mem_append.1 hc with hc | hc
      · exact hclosing c hc
      · rw [List.mem_singleton.1 hc]
        rfl
    · have hbehind : 'u' ∉ '\x7d' :: rest := by
        rw [List.mem_cons, not_or]
        exact ⟨by decide, hrest⟩
      calc unmarked ('\x7b' :: (text ++ ['\x7d']) ++ rest)
        _ = unmarked (['\x7b'] ++ (text ++ '\x7d' :: rest)) := by
          rw [List.cons_append, List.append_assoc]
          rfl
        _ = '\x7b' :: unmarked (text ++ '\x7d' :: rest) := unmarked_append (by decide) _
        _ = '\x7b' :: opening ++ (body ++ (closing ++ ['\x7d'] ++ rest)) := by
          rw [hunmarked _ hbehind, List.append_assoc]
          rfl

theorem dropWhile_isBrace {braces text : List Char} (hbraces : ∀ c ∈ braces, isBrace c = true)
    (htext : ∀ c ∈ text.head?, isBrace c = false) :
    (braces ++ text).dropWhile isBrace = text := by
  rw [List.dropWhile_append_of_pos hbraces]
  cases text with
  | nil => rfl
  | cons c rest => exact List.dropWhile_cons_of_neg (Bool.not_eq_true _ ▸ htext c rfl)

/-- Braces are cut off up to a text that has none. -/
theorem withoutBraces_around {opening body closing : List Char}
    (hopening : ∀ c ∈ opening, isBrace c = true) (hsome : body ≠ [])
    (hbody : ∀ c ∈ body, isBrace c = false) (hclosing : ∀ c ∈ closing, isBrace c = true) :
    withoutBraces (opening ++ (body ++ closing)) = body := by
  have hfront : (opening ++ (body ++ closing)).dropWhile isBrace = body ++ closing := by
    refine dropWhile_isBrace hopening fun c hc => ?_
    obtain ⟨first, rest, rfl⟩ := List.exists_cons_of_ne_nil hsome
    exact Option.some.inj hc ▸ hbody first List.mem_cons_self
  have hback : (closing.reverse ++ body.reverse).dropWhile isBrace = body.reverse := by
    refine dropWhile_isBrace (fun c hc => hclosing c (List.mem_reverse.1 hc)) fun c hc => ?_
    exact hbody c (List.mem_reverse.1 (List.mem_of_mem_head? hc))
  rw [withoutBraces, hfront, List.reverse_append, hback, List.reverse_reverse]

/-- What is left of a spelling are the digits, in letters of either case. -/
theorem IsSpelling.map_toLower_bare (hbound : handle.value < bound) (h : handle.IsSpelling text) :
    (bare text).map Char.toLower = handle.digits := by
  obtain ⟨opening, body, closing, hopening, hbody, hclosing, hunmarked⟩ := h.exists_unmarked
  have hsome : body ≠ [] := by
    rintro rfl
    have hnone : [] = handle.digits := hbody
    have hlength := length_digits hbound
    rw [← hnone] at hlength
    cases hlength
  have hbraces : ∀ c ∈ body, isBrace c = false := by
    intro c hc
    by_cases hhyphen : c = '-'
    · rw [hhyphen]
      rfl
    · have hdigit := hbody.isDigitOf hc hhyphen
      rw [isBrace, beq_eq_false_iff_ne.2 (hdigit.ne (by decide)),
        beq_eq_false_iff_ne.2 (hdigit.ne (by decide))]
      rfl
  have htext := hunmarked [] List.not_mem_nil
  rw [List.append_nil, List.append_nil] at htext
  have hbare : bare text = (withoutBraces (unmarked text)).filter (· != '-') := rfl
  rw [hbare, htext, withoutBraces_around hopening hsome hbraces hclosing]
  exact hbody

/-! ## Reading a handle -/

/-- A text with as many characters left as a handle has digits is refused only if these are no
numeral: their number is always one of a handle. -/
theorem ofText?_of_length {text : String} (h : (bare text.toList).length = width) :
    ofText? text = match readInt 16 (String.ofList (bare text.toList)) with
      | .ok value => some ⟨value.toNat⟩
      | .error _ => none := by
  have hhyphen : '-' ∉ (String.ofList (bare text.toList)).toList := by
    rw [String.toList_ofList]
    exact fun hmem => absurd (List.mem_filter.1 hmem).2 (by decide)
  unfold ofText?
  dsimp only
  rw [h, beq_self_eq_true, if_pos rfl]
  cases hread : readInt 16 (String.ofList (bare text.toList)) with
  | error fault => rfl
  | ok value =>
    obtain ⟨hlow, hhigh⟩ := readInt_bounded (by decide) hhyphen hread
    rw [String.toList_ofList, h] at hhigh
    have hfits : value < (bound : Int) := hhigh
    dsimp only
    rw [decide_eq_true hlow, decide_eq_true hfits]
    rfl

/-- Every spelling of a handle is read as the handle. -/
theorem ofText?_of_isSpelling {text : String} (hbound : handle.value < bound)
    (h : handle.IsSpelling text.toList) : ofText? text = some handle := by
  have hlower := h.map_toLower_bare hbound
  have hlength : (bare text.toList).length = width := by
    rw [← length_digits hbound, ← hlower, List.length_map]
  have hsome : bare text.toList ≠ [] := by
    intro hnone
    rw [hnone] at hlength
    cases hlength
  have hvalue : ofDigits 16 ((bare text.toList).map digitOf) = handle.value := by
    rw [← ofDigits_digits handle, ← hlower, List.map_map]
    refine congrArg (ofDigits 16) (List.map_congr_left fun c _ => ?_)
    rw [Function.comp_apply, digitOf, digitOf, digitValue?_toLower]
  rw [ofText?_of_length hlength, readInt_of_digits (isDigitOf_of_map_toLower hlower) hsome, hvalue]
  rfl

/-- The part of the digits that begins at a place. -/
def digitsFrom (handle : Handle) (start count : Nat) : List Char :=
  (handle.digits.drop start).take count

theorem toList_text (handle : Handle) : handle.text.toList =
    handle.digitsFrom 0 8 ++ ['-'] ++ handle.digitsFrom 8 4 ++ ['-'] ++ handle.digitsFrom 12 4 ++
      ['-'] ++ handle.digitsFrom 16 4 ++ ['-'] ++ handle.digitsFrom 20 12 := by
  unfold text
  simp only [String.toList_append]
  have hpart : ∀ start count, (toString (String.ofList
      ((handle.digits.drop start).take count))).toList = handle.digitsFrom start count :=
    fun _ _ => String.toList_ofList
  rw [hpart, hpart, hpart, hpart, hpart]
  rfl

/-- A handle is written in thirty-six characters. -/
theorem length_text (hbound : handle.value < bound) : handle.text.toList.length = 36 := by
  have hpart : ∀ start count, start + count ≤ width →
      (handle.digitsFrom start count).length = count := by
    intro start count hfits
    rw [digitsFrom, List.length_take, List.length_drop, length_digits hbound]
    omega
  rw [toList_text]
  simp only [List.length_append, List.length_singleton]
  rw [hpart 0 8 (by decide), hpart 8 4 (by decide), hpart 12 4 (by decide),
    hpart 16 4 (by decide), hpart 20 12 (by decide)]

theorem filter_digitsFrom (handle : Handle) (start count : Nat) :
    (handle.digitsFrom start count).filter (· != '-') = handle.digitsFrom start count := by
  refine List.filter_eq_self.2 fun c hc => bne_iff_ne.2 ?_
  have hmem : c ∈ handle.digits := List.mem_of_mem_drop (List.mem_of_mem_take hc)
  exact (isDigitOf_of_mem_digits c hmem).1.ne (by decide)

/-- A handle as it is written is one of its spellings. -/
theorem isSpelling_text (hbound : handle.value < bound) :
    handle.IsSpelling handle.text.toList := by
  have hsplit : ∀ start count, handle.digitsFrom start count ++
      handle.digits.drop (start + count) = handle.digits.drop start := by
    intro start count
    rw [digitsFrom, ← List.drop_drop, List.take_append_drop]
  have hlast : handle.digitsFrom 20 12 = handle.digits.drop 20 := by
    refine List.take_of_length_le ?_
    rw [List.length_drop, length_digits hbound]
    decide
  have hfilter : handle.text.toList.filter (· != '-') = handle.digits := by
    have hhyphen : ['-'].filter (· != '-') = [] := rfl
    simp only [toList_text, List.filter_append, filter_digitsFrom, hhyphen, List.append_nil]
    rw [hlast, List.append_assoc, hsplit 16 4, List.append_assoc, hsplit 12 4, List.append_assoc,
      hsplit 8 4]
    exact hsplit 0 8
  have hlower : handle.digits.map Char.toLower = handle.digits := by
    calc handle.digits.map Char.toLower
      _ = handle.digits.map id := List.map_congr_left fun c hc => (isDigitOf_of_mem_digits c hc).2
      _ = handle.digits := List.map_id _
  refine .plain ?_
  rw [IsWritten, hfilter, hlower]

/-- A handle as it is written is read as itself. -/
theorem ofText?_text (hbound : handle.value < bound) : ofText? handle.text = some handle :=
  ofText?_of_isSpelling hbound (isSpelling_text hbound)

/-- What is read is a handle. -/
theorem lt_of_ofText? {text : String} (h : ofText? text = some handle) : handle.value < bound := by
  unfold ofText? at h
  dsimp only at h
  split at h
  · split at h
    · next value _ =>
      split at h
      · next hfits =>
        cases h
        rw [Bool.and_eq_true, decide_eq_true_eq, decide_eq_true_eq] at hfits
        change value.toNat < bound
        omega
      · cases h
    · cases h
  · cases h

/-- A text is refused as a handle just if it has too many or too few characters left for its
digits, or if these are no numeral. -/
theorem ofText?_eq_none_iff (text : String) : ofText? text = none ↔
    (bare text.toList).length ≠ width ∨
      ∃ fault, readInt 16 (String.ofList (bare text.toList)) = .error fault := by
  by_cases hlength : (bare text.toList).length = width
  · rw [ofText?_of_length hlength]
    cases hread : readInt 16 (String.ofList (bare text.toList)) with
    | error fault => exact iff_of_true rfl (.inr ⟨fault, rfl⟩)
    | ok value =>
      refine iff_of_false nofun ?_
      rintro (hother | ⟨fault, hfault⟩)
      · exact hother hlength
      · cases hfault
  · refine iff_of_true ?_ (.inl hlength)
    unfold ofText?
    dsimp only
    rw [beq_eq_false_iff_ne.2 hlength, if_neg Bool.false_ne_true]

end Handle

/-! ## Requests that name a handle -/

namespace Job

variable {value other : Text.Literal}

/-- Cancelling goes by the handle that is read. -/
theorem cancel_congr (h : Handle.ofLiteral? value = Handle.ofLiteral? other) :
    cancel value = cancel other := by
  unfold cancel
  rw [h]

/-- The progress of a job is told by its stored record. -/
theorem progress_of_stored {handle : Handle} (h : Handle.ofLiteral? value = some handle)
    {s : Session} (hwhole : s.isBroken = false) {row : Row Job}
    (hrow : s.store.jobOf? (some handle) = some row) :
    progress value s = (.ok (.ofJob row.val), s) := by
  have hquery : Proc.query (fun store => .ok (store.jobOf? (some handle))) s =
      (.ok (some row), s) := by
    rw [Proc.query_of_whole _ hwhole, hrow]
  unfold progress
  rw [h]
  dsimp only
  rw [Proc.bind_of_ok hquery]
  rfl

/-- A broken block tells the progress of no job. -/
theorem progress_of_isBroken {handle : Handle} (h : Handle.ofLiteral? value = some handle)
    {s : Session} (hbroken : s.isBroken = true) :
    progress value s = (.error .blockBroken, s) := by
  unfold progress
  rw [h]
  dsimp only
  rw [Proc.bind_of_error (Proc.query_of_isBroken _ hbroken)]

/-- The progress of a stored job goes by the handle that is read. -/
theorem progress_congr {handle : Handle} (h : Handle.ofLiteral? value = some handle)
    (hother : Handle.ofLiteral? other = some handle) {s : Session}
    (hstored : ∃ row ∈ s.store.jobs.rows, row.val.handle = handle) :
    progress value s = progress other s := by
  cases hbroken : s.isBroken with
  | true => rw [progress_of_isBroken h hbroken, progress_of_isBroken hother hbroken]
  | false =>
    obtain ⟨row, hrow, rfl⟩ := hstored
    have hfound : (s.store.jobOf? (some row.val.handle)).isSome = true :=
      List.find?_isSome.2 ⟨row, hrow, beq_self_eq_true _⟩
    obtain ⟨found, hfound⟩ := Option.isSome_iff_exists.1 hfound
    rw [progress_of_stored h hbroken hfound, progress_of_stored hother hbroken hfound]

/-- A value that names no handle is answered as unknown, and nothing is done. -/
theorem progress_of_unreadable (h : Handle.ofLiteral? value = none) (s : Session) :
    progress value s = (.ok (.unknown value), s) := by
  unfold progress
  rw [h]
  rfl

theorem cancel_of_unreadable (h : Handle.ofLiteral? value = none) (s : Session) :
    cancel value s = (.ok false, s) := by
  unfold cancel
  rw [h]
  rfl

end Job

/-- A handle of 128 bits is read from what is written of it and from each of its other spellings.
Whatever is read is a handle that is read again once it is written, and a text is refused only for
how many characters are left for its digits or because these are no numeral. Requests that spell
the handle of one job differently are answered alike, and those that spell none are answered as for
an unknown job and change nothing. -/
theorem Handle.spellings_read {handle : Handle} (hbound : handle.value < 2 ^ 128) :
    ofText? handle.text = some handle ∧
    (∀ text : String, handle.IsSpelling text.toList → ofText? text = some handle) ∧
    (∀ text own, ofText? text = some own → own.value < 2 ^ 128 ∧ ofText? own.text = some own) ∧
    (∀ text, ofText? text = none ↔ (bare text.toList).length ≠ width ∨
      ∃ fault, Text.readInt 16 (String.ofList (bare text.toList)) = .error fault) ∧
    (∀ value other, ofLiteral? value = some handle → ofLiteral? other = some handle →
      ∀ s : Session, Job.cancel value s = Job.cancel other s ∧
        ((∃ row ∈ s.store.jobs.rows, row.val.handle = handle) →
          Job.progress value s = Job.progress other s)) ∧
    ∀ value, ofLiteral? value = none → ∀ s,
      Job.progress value s = (.ok (.unknown value), s) ∧ Job.cancel value s = (.ok false, s) := by
  refine ⟨ofText?_text hbound, fun text h => ofText?_of_isSpelling hbound h,
    fun text own h => ⟨lt_of_ofText? h, ofText?_text (lt_of_ofText? h)⟩, ofText?_eq_none_iff,
    fun value other h hother s => ⟨?_, fun hstored => Job.progress_congr h hother hstored⟩,
    fun value h s => ⟨Job.progress_of_unreadable h s, Job.cancel_of_unreadable h s⟩⟩
  rw [Job.cancel_congr (h.trans hother.symm)]

/-- A handle spelled in capital letters, with its hyphens misplaced, in braces and marked. -/
theorem Handle.spellings_read_capitals :
    (⟨0x40008000000000abcdef⟩ : Handle).value < 2 ^ 128 ∧
      ofText? "urn:uuid:\x7b00000000-0000-4000-80000-00000AB-CDEF\x7d" =
        some ⟨0x40008000000000abcdef⟩ := by
  have hbody : (⟨0x40008000000000abcdef⟩ : Handle).IsWritten
      "00000000-0000-4000-80000-00000AB-CDEF".toList := by decide +kernel
  have hbound : (⟨0x40008000000000abcdef⟩ : Handle).value < 2 ^ 128 := by decide
  exact ⟨hbound, (spellings_read hbound).2.1 _ (.marked (.braced (.plain hbody)))⟩

end Clearance
