import Clearance.Proofs.Session.Ascent

/-!
# When generations come back

A loss of a counter brings no generation back that has stood for other rules, just if the clock is
not behind the counter when it is lost. If it is, then as many words added as the clock is behind
make the generation come back, and a vocabulary that was kept for it is used again without them.
-/

set_option autoImplicit false

namespace Clearance

open Proc
open Session (Ascends StaysSettled)

/-! ## Words added -/

theorem exists_fresh_word (words : List String) : ∃ word, word ∉ words := by
  have hbound : ∃ most, ∀ word ∈ words, word.length < most := by
    induction words with
    | nil => exact ⟨0, nofun⟩
    | cons first rest ih =>
      obtain ⟨most, hmost⟩ := ih
      refine ⟨most + first.length + 1, fun word hword => ?_⟩
      rcases List.mem_cons.1 hword with rfl | hword
      · omega
      · have := hmost word hword
        omega
  obtain ⟨most, hmost⟩ := hbound
  refine ⟨String.ofList (List.replicate most 'a'), fun hword => ?_⟩
  have hlength := hmost _ hword
  simp at hlength

namespace Store

variable {store : Store}

theorem length_rules (store : Store) (vocabulary : Word.Vocabulary) :
    (store.rules vocabulary).length = (store.words vocabulary).size := by
  unfold rules Table.size
  rw [List.length_map, List.length_mergeSort]

theorem addWord_of_fresh {vocabulary : Word.Vocabulary} {entry : WordEntry}
    (hnumber : canHold entry.matchType = true)
    (hfresh : entry.word ∉ (store.words vocabulary).rows.map (·.val.word)) :
    store.addWord vocabulary entry = .ok
      ⟨store.setWords vocabulary ((store.words vocabulary).insert entry),
        ((store.words vocabulary).insert entry).lastId, [vocabulary]⟩ := by
  have hnumbers : guardNumbers [entry.matchType] = .ok () := by
    simp [guardNumbers, hnumber]
  have hnone : ((store.words vocabulary).rows.any fun row => row.val.word == entry.word) = false := by
    rw [List.any_eq_false]
    intro row hrow hsame
    apply hfresh
    rw [beq_iff_eq] at hsame
    rw [← hsame]
    exact List.mem_map_of_mem hrow
  unfold addWord
  rw [hnumbers]
  simp [bind, Except.bind, hnone]
  rfl

end Store

/-- An operation that adds a word to a vocabulary. -/
def Operation.addWord (entry : WordEntry) : Word.Vocabulary → Operation
  | .stopWords => addStopWord entry
  | .keyWords => addKeyWord entry []

theorem Service.perform_addWord (entry : WordEntry) (vocabulary : Word.Vocabulary) (s : Session) :
    (Service.perform (Operation.addWord entry vocabulary) s).2 =
      (execute (fun store => store.addWord vocabulary entry) s).2 := by
  cases vocabulary with
  | stopWords =>
    show ((Answer.id <$> execute fun store => store.addWord .stopWords entry) s).2 = _
    rw [← bind_pure_comp, bind_apply]
    cases execute (fun store => store.addWord .stopWords entry) s with
    | mk result t => cases result <;> rfl
  | keyWords =>
    show ((Answer.id <$> Service.addKeyWord entry []) s).2 = _
    unfold Service.addKeyWord
    rw [← bind_pure_comp, bind_assoc, bind_apply]
    cases execute (fun store => store.addWord .keyWords entry) s with
    | mk result t => cases result <;> rfl

/-- A session in which nothing is open can be given one more word, which moves the generation of its
vocabulary by one. -/
theorem exists_word_added {s : Session} (hs : s.IsSettled) (hblock : s.inBlock = false)
    (vocabulary : Word.Vocabulary) : ∃ request : Request, request.keepsPace s = true ∧
      (Service.serve request s).2.IsSettled ∧ (Service.serve request s).2.inBlock = false ∧
      (Service.serve request s).2.generation vocabulary = s.generation vocabulary + 1 ∧
      ((Service.serve request s).2.store.rules vocabulary).length =
        (s.store.rules vocabulary).length + 1 := by
  obtain ⟨word, hfresh⟩ :=
    exists_fresh_word ((s.store.words vocabulary).rows.map fun row => row.val.word)
  obtain ⟨hwhole, _, hsound⟩ := hs hblock
  have hadd := @Store.addWord_of_fresh s.store vocabulary ⟨word, 1⟩ rfl hfresh
  have hrun := execute_final (fun store => store.addWord vocabulary ⟨word, 1⟩) hblock hwhole hadd
    (hsound.insertWord vocabulary ⟨word, 1⟩)
  have hserve : (Service.serve (.single (Operation.addWord ⟨word, 1⟩ vocabulary)) s).2 =
      { s with store := s.store.setWords vocabulary ((s.store.words vocabulary).insert ⟨word, 1⟩) }.bump
        vocabulary := by
    unfold Service.serve
    rw [Service.answered_apply, Service.perform_addWord, hrun]
    rfl
  obtain ⟨hblock', hsettled⟩ := Service.follows_serve Service.staysSettled_isCourse_service
    (.single (Operation.addWord ⟨word, 1⟩ vocabulary)) (fun _ _ => trivial) s
  refine ⟨.single (Operation.addWord ⟨word, 1⟩ vocabulary), ?_, hsettled hs,
    hblock'.trans hblock, ?_, ?_⟩
  · unfold Request.keepsPace
    cases vocabulary <;> rfl
  · rw [hserve, Session.generation_bump]
    rfl
  · rw [hserve, Session.store_bump, Store.length_rules, Store.length_rules, Store.words_setWords]
    exact List.length_append

/-- Any number of words can be added, each of which moves the generation by one. -/
theorem exists_words_added (count : Nat) {s : Session} (hs : s.IsSettled)
    (hblock : s.inBlock = false) (vocabulary : Word.Vocabulary) :
    ∃ requests : List Request, Request.keepPace requests s = true ∧
      (Service.serveAll requests s).2.generation vocabulary = s.generation vocabulary + count ∧
      ((Service.serveAll requests s).2.store.rules vocabulary).length =
        (s.store.rules vocabulary).length + count := by
  induction count generalizing s with
  | zero => exact ⟨[], rfl, (Int.add_zero _).symm, rfl⟩
  | succ count ih =>
    obtain ⟨request, hpace, hsettled, hblock', hgeneration, hlength⟩ :=
      exists_word_added hs hblock vocabulary
    obtain ⟨rest, hrest, hgeneration', hlength'⟩ := ih hsettled hblock'
    refine ⟨request :: rest, ?_, ?_, ?_⟩
    · rw [Request.keepPace, hpace, hrest]
      rfl
    · rw [Service.serveAll_cons_snd, hgeneration', hgeneration]
      omega
    · rw [Service.serveAll_cons_snd, hlength', hlength]
      omega

/-! ## Losses -/

/-- After a loss of a counter its generation comes back for no other rules, whatever is served that
takes no generation back, just if the clock is not behind the counter when it is lost. -/
theorem loss_harmless_iff {s : Session} (hs : s.IsSettled) (hblock : s.inBlock = false)
    (vocabulary : Word.Vocabulary) :
    (∀ later, Request.keepPace later (s.evict vocabulary) = true →
      let t := (Service.serveAll later (s.evict vocabulary)).2
      t.generation vocabulary = s.generation vocabulary →
        t.store.rules vocabulary = s.store.rules vocabulary) ↔
      s.generation vocabulary ≤ s.seed := by
  constructor
  · intro hharmless
    by_contra hbehind
    have hlost : (s.evict vocabulary).generation vocabulary = s.seed := by
      simp [Session.evict, Session.generation, Session.seed]
    -- as many words as the clock is behind bring the number back
    obtain ⟨later, hpace, hgeneration, hlength⟩ := exists_words_added
      (s.generation vocabulary - s.seed).toNat (s := s.evict vocabulary) hs hblock vocabulary
    have hsame := congrArg List.length (hharmless later hpace (by omega))
    have hstore : (s.evict vocabulary).store = s.store := rfl
    rw [hlength, hstore] at hsame
    omega
  · intro hbehind later hpace
    have hup := Session.generation_le_evict hbehind
    have hloss : Ascends s (s.evict vocabulary) :=
      Session.ascends_of_generations rfl rfl rfl rfl hup
    have hascends := hloss.trans (ascends_serveAll hpace)
    exact (hascends.outside hblock (hs hblock).2.1).2.1 vocabulary

/-- A generation does not come back once its rules have changed, and a vocabulary that is asked for
outside a block comes compiled from the rules that are stored now, if the clock does not go back and
is not behind a counter whenever that is lost. A loss at which it is behind can bring a generation
back. -/
theorem generation_not_repeated (backend : Word.Backend) (outages : Monitor.Outages)
    (earlier : List Request)
    (hpace : Request.keepPace earlier (Session.start backend outages) = true)
    (vocabulary : Word.Vocabulary) :
    let s := (Service.serveAll earlier (Session.start backend outages)).2
    (∀ later, Request.keepPace later s = true →
      let t := (Service.serveAll later s).2
      s.generation vocabulary ≤ t.generation vocabulary ∧
      (t.generation vocabulary = s.generation vocabulary →
        t.store.rules vocabulary = s.store.rules vocabulary) ∧
      ∃ compiled u, Proc.compiled vocabulary t = (.ok compiled, u) ∧
        compiled.matcher = Word.compile (t.store.rules vocabulary)) ∧
    ((∀ later, Request.keepPace later (s.evict vocabulary) = true →
      let t := (Service.serveAll later (s.evict vocabulary)).2
      t.generation vocabulary = s.generation vocabulary →
        t.store.rules vocabulary = s.store.rules vocabulary) ↔
      s.generation vocabulary ≤ s.seed) := by
  intro s
  obtain ⟨hs, hblock, _⟩ := Service.isSettled_serveAll backend outages earlier
  have hdate : s.IsUpToDate s.store :=
    ((ascends_serveAll hpace).outside rfl rfl).2.2
      (Session.isFreshFor_start backend outages).isUpToDate
  refine ⟨fun later hlater => ?_, loss_harmless_iff hs hblock vocabulary⟩
  have hascends := ascends_serveAll hlater
  obtain ⟨_, hrules, hkeeps⟩ := hascends.outside hblock (hs hblock).2.1
  refine ⟨hascends.generation vocabulary, hrules vocabulary, ?_⟩
  obtain ⟨_, _, hwhole, _⟩ := Service.isSettled_serveAll backend outages (earlier ++ later)
  rw [Service.serveAll_append_snd] at hwhole
  obtain ⟨compiled, u, hrun, hmatcher, _⟩ := exists_compiled hwhole vocabulary
  exact ⟨compiled, u, hrun, hmatcher.trans ((hkeeps hdate).matcherOf vocabulary)⟩

/-- A stop word, with the stop words then compiled, and their counter lost a second later. -/
def lossRequests : List Request :=
  [.single (.addStopWord ⟨"gun", 11⟩), .single (.matchText .stopWords none),
    .single (.advance 1), .single (.evict .stopWords)]

/-- A stop word saved after the loss is as it was saved in the vocabulary that comes afterwards. -/
theorem compiled_lossRequests :
    let s := (Service.serveAll lossRequests (Session.start (.engine .null) .none)).2
    let t := (Service.serveAll [.single (.saveWord .stopWords 1 ⟨some "axe", none⟩)] s).2
    s.generation .stopWords ≤ t.generation .stopWords ∧
      ∃ compiled u, Proc.compiled .stopWords t = (.ok compiled, u) ∧
        compiled.matcher = Word.compile [⟨1, some "axe", 11⟩] := by
  have hpace : Request.keepPace lossRequests (Session.start (.engine .null) .none) = true := by
    decide +kernel
  have hrules : (Service.serveAll [.single (.saveWord .stopWords 1 ⟨some "axe", none⟩)]
      (Service.serveAll lossRequests (Session.start (.engine .null) .none)).2).2.store.rules
        .stopWords = [⟨1, some "axe", 11⟩] := by
    decide +kernel
  obtain ⟨hup, _, compiled, u, hrun, hmatcher⟩ :=
    (generation_not_repeated (.engine .null) .none lossRequests hpace .stopWords).1
      [.single (.saveWord .stopWords 1 ⟨some "axe", none⟩)] (by decide +kernel)
  rw [hrules] at hmatcher
  exact ⟨hup, compiled, u, hrun, hmatcher⟩

/-- Without time passing, a stop word added and a counter lost bring back the generation for which
the stop words were compiled before, and they come without the word. -/
theorem generation_comes_back :
    let s := (Service.serveAll [.single (.matchText .stopWords none)]
      (Session.start (.engine .null) .none)).2
    let t := (Service.serveAll
      [.single (.addStopWord ⟨"gun", 11⟩), .single (.evict .stopWords)] s).2
    t.generation .stopWords = s.generation .stopWords ∧
      s.store.rules .stopWords = [] ∧ t.store.rules .stopWords = [⟨1, some "gun", 11⟩] ∧
      (Proc.compiled .stopWords t).1.toOption.map (·.matcher) = some (Word.compile []) := by
  refine ⟨?_, ?_, ?_, ?_⟩ <;> decide +kernel

end Clearance
