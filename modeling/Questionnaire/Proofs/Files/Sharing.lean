import Mathlib.Data.List.Forall2
import Mathlib.Data.Set.Function
import Questionnaire.Files.Store

/-!
# What a store in a folder keeps apart

A store in a folder replies to its calls as a store in memory would whose keys are the names of the files. So it replies
as one under the keys themselves exactly if no two of the keys that are in use share a file. Two keys do if they are
alike, that is, if they differ only in characters that are neither letters nor digits nor hyphens. The keys of two
documents of different kinds are never alike, and those of one kind are if the ids of the documents are.
-/

namespace Questionnaire

/-! ### Calls to a store -/

/-- The text that a store in a folder keeps. -/
def Answers.written (answers : Answers) : String := (Json.object answers.toList).compact

/-- What is written of the answers is read as these answers. -/
def Answers.IsReadBack (answers : Answers) : Prop := Answers.ofText .json answers.written = .ok answers

inductive StoreCall where
  | get (key : String)
  | set (key : String) (answers : Answers)
  | clear (key : String)

namespace StoreCall

def key : StoreCall → String
  | get key | set key _ | clear key => key

/-- The same call under another key. -/
def rename (f : String → String) : StoreCall → StoreCall
  | get key => get (f key)
  | set key answers => set (f key) answers
  | clear key => clear (f key)

/-- The answers that are set, if there are any, are read back. -/
def ReadsBack : StoreCall → Prop
  | set _ answers => answers.IsReadBack
  | get _ | clear _ => True

/-- What a store in memory holds after the call, and what it replies. -/
def inMemory (m : Entries Answers) : StoreCall → Entries Answers × Option Answers
  | get key => (m, m.get? key)
  | set key answers => (m.insert key answers, none)
  | clear key => (m.erase key, none)

/-- What a store in a folder holds after the call, and what it replies. -/
def inFolder (s : FileStore) : StoreCall → FileStore × Except Failure (Option Answers)
  | get key => (s, s.get key)
  | set key answers => ((s.set key answers).1, (fun _ => none) <$> (s.set key answers).2)
  | clear key => ((s.clear key).1, (fun _ => none) <$> (s.clear key).2)

end StoreCall

/-- What a store replies to one call after the other. -/
def replies {σ ρ : Type} (reply : σ → StoreCall → σ × ρ) (s : σ) : List StoreCall → List ρ
  | [] => []
  | c :: rest => (reply s c).2 :: replies reply (reply s c).1 rest

open StoreCall

/-! ### Files -/

namespace FileStore

/-- The name of the file of the key is not too long. -/
def Fits (key : String) : Prop := (fileName key).utf8ByteSize ≤ FileTree.maxName

instance : DecidablePred Fits := fun key => inferInstanceAs (Decidable ((fileName key).utf8ByteSize ≤ FileTree.maxName))

/-- The folder has a file for every entry of the map, under the name of the entry and with its answers, and nothing
else. -/
structure Keeps (s : FileStore) (m : Entries Answers) : Prop where
  made : s.made = false → ∀ name, m.get? name = none
  items : ∀ name, Members.get? name s.items = (m.get? name).map fun answers => .ofText answers.written
  readBack : ∀ name answers, m.get? name = some answers → answers.IsReadBack

section
variable {s : FileStore} {m : Entries Answers} {key : String} {answers : Answers} {c : StoreCall}

theorem length_fileName (key : String) : (fileName key).length = key.length + 5 := by
  rw [fileName, String.length_append, String.length_ofList, List.length_map, String.length_toList]
  rfl

theorem fileName_ne {name : String} (h : name.length < 5) : fileName key ≠ name := by
  intro heq
  have hlength := length_fileName key
  rw [heq] at hlength
  omega

/-- A name of a file leads to the item of that name. -/
theorem item_eq (h : Fits key) : s.item key =
    match Members.get? (fileName key) s.items with
    | some t => .ok t
    | none => .error .notFound := by
  have hempty : fileName key ≠ "" := fileName_ne (by decide)
  have hhere : fileName key ≠ "." := fileName_ne (by decide)
  have habove : fileName key ≠ ".." := fileName_ne (by decide)
  rw [item, FileTree.follow, if_neg (not_or.mpr ⟨hempty, hhere⟩), if_neg habove, if_neg (Nat.not_lt.mpr h)]
  cases Members.get? (fileName key) s.items <;> rfl

theorem Keeps.item (h : Keeps s m) (hfits : Fits key) : s.item key =
    match m.get? (fileName key) with
    | some answers => .ok (.ofText answers.written)
    | none => .error .notFound := by
  rw [item_eq hfits, h.items]
  cases m.get? (fileName key) <;> rfl

theorem Keeps.get (h : Keeps s m) (hfits : Fits key) : s.get key = .ok (m.get? (fileName key)) := by
  rw [FileStore.get]
  split
  · rw [h.item hfits]
    cases hm : m.get? (fileName key) with
    | none => rfl
    | some answers =>
      have hread : Answers.ofText .json answers.written = .ok answers := h.readBack _ _ hm
      simp only [Except.bind, FileTree.text_ofText, hread]
      rfl
  · rename_i hmade
    rw [h.made (eq_false_of_ne_true hmade)]

theorem Keeps.set_eq (h : Keeps s m) (hfits : Fits key) (answers : Answers) : s.set key answers =
    (⟨true, Members.insert (fileName key) (.ofText answers.written) s.items⟩, .ok ()) := by
  have hitem := h.item hfits
  have hfolder : ({ s with made := true } : FileStore).item key = s.item key := rfl
  rw [FileStore.set, hfolder, hitem]
  cases m.get? (fileName key) <;> rfl

theorem Keeps.set (h : Keeps s m) (key : String) (hread : answers.IsReadBack) :
    Keeps ⟨true, Members.insert (fileName key) (.ofText answers.written) s.items⟩
      (m.insert (fileName key) answers) where
  made hmade := by cases hmade
  items name := by
    rw [Members.get?_insert, Entries.get?_insert, h.items]
    split <;> rfl
  readBack name answers' hname := by
    rw [Entries.get?_insert] at hname
    split at hname
    · exact Option.some.inj hname ▸ hread
    · exact h.readBack name answers' hname

theorem Keeps.congr {m' : Entries Answers} (h : Keeps s m) (heq : ∀ name, m'.get? name = m.get? name) :
    Keeps s m' where
  made hmade name := (heq name).trans (h.made hmade name)
  items name := by rw [heq, h.items]
  readBack name answers hname := h.readBack name answers (heq name ▸ hname)

theorem Keeps.clear (h : Keeps s m) (hfits : Fits key) :
    (s.clear key).2 = .ok () ∧ Keeps (s.clear key).1 (m.erase (fileName key)) := by
  have hitem := h.item hfits
  cases hm : m.get? (fileName key) with
  | none =>
    rw [hm] at hitem
    have hclear : s.clear key = (s, .ok ()) := by
      rw [FileStore.clear, hitem]
      exact ite_self _
    rw [hclear]
    refine ⟨rfl, h.congr fun name => ?_⟩
    rw [Entries.get?_erase]
    split
    · rename_i hname
      rw [← hname, hm]
    · rfl
  | some answers =>
    rw [hm] at hitem
    -- A folder that has not been made holds no file.
    have hmade : s.made = true := by
      by_contra hnot
      rw [h.made (eq_false_of_ne_true hnot)] at hm
      cases hm
    have hclear : s.clear key = ({ s with items := Members.erase (fileName key) s.items }, .ok ()) := by
      rw [FileStore.clear, if_pos hmade, hitem]
      rfl
    rw [hclear]
    refine ⟨rfl, fun hnot => absurd hmade (ne_true_of_eq_false hnot), fun name => ?_, fun name answers hname => ?_⟩
    · rw [Members.get?_erase, Entries.get?_erase, h.items]
      split <;> rfl
    · rw [Entries.get?_erase] at hname
      exact h.readBack name answers (Option.ite_none_left_eq_some.mp hname).2

/-- A call under a name that fits is replied to as one in memory under the name of the file. -/
theorem Keeps.reply (h : Keeps s m) (hfits : Fits c.key) (hread : c.ReadsBack) :
    (inFolder s c).2 = .ok (inMemory m (c.rename fileName)).2 ∧
      Keeps (inFolder s c).1 (inMemory m (c.rename fileName)).1 := by
  cases c with
  | get key => exact ⟨h.get hfits, h⟩
  | set key answers =>
    have hkey : Fits key := hfits
    rw [inFolder, h.set_eq hkey]
    exact ⟨rfl, h.set key hread⟩
  | clear key =>
    have hkey : Fits key := hfits
    obtain ⟨hok, hkeeps⟩ := h.clear hkey
    rw [inFolder, hok]
    exact ⟨rfl, hkeeps⟩

theorem Keeps.replies {calls : List StoreCall} (h : Keeps s m) (hcalls : ∀ c ∈ calls, Fits c.key ∧ c.ReadsBack) :
    replies inFolder s calls = (Questionnaire.replies inMemory m (calls.map (rename fileName))).map .ok := by
  induction calls generalizing s m with
  | nil => rfl
  | cons c rest ih =>
    rw [List.forall_mem_cons] at hcalls
    obtain ⟨hreply, hkeeps⟩ := h.reply hcalls.1.1 hcalls.1.2
    rw [Questionnaire.replies, hreply, ih hkeeps hcalls.2]
    rfl

theorem keeps_empty (made : Bool) : Keeps ⟨made, []⟩ ∅ where
  made _ _ := rfl
  items _ := rfl
  readBack name answers h := by cases h

end

end FileStore

/-! ### Keys -/

/-- The character is neither a letter nor a digit nor a hyphen: in the name of a file there is an underscore. -/
def IsReplaced (c : Char) : Prop := c.isAlphanum = false ∧ c ≠ '-'

/-- The two characters are not told apart in the name of a file. -/
def Alike (c d : Char) : Prop := c = d ∨ IsReplaced c ∧ IsReplaced d

/-- The two keys are alike at every place. -/
def SameFile (k k' : String) : Prop := List.Forall₂ Alike k.toList k'.toList

namespace FileStore

/-- The character that stands for another one in the name of a file. -/
def standIn (c : Char) : Char := if isPlain c then c else '_'

section
variable {c d : Char} {k k' : String}

theorem standIn_of_isReplaced (h : IsReplaced c) : standIn c = '_' := by
  have hplain : isPlain c = (c == '_') := by
    rw [isPlain, h.1, beq_eq_false_iff_ne.mpr h.2, Bool.false_or, Bool.false_or]
  rw [standIn, hplain]
  split
  · rename_i hc
    exact beq_iff_eq.mp hc
  · rfl

theorem standIn_of_not_isReplaced (h : ¬ IsReplaced c) : standIn c = c := by
  refine if_pos ?_
  by_contra hplain
  rw [isPlain, Bool.or_eq_true, Bool.or_eq_true, not_or, not_or] at hplain
  exact h ⟨eq_false_of_ne_true hplain.1.1, fun heq => hplain.1.2 (beq_iff_eq.mpr heq)⟩

theorem isReplaced_underscore : IsReplaced '_' := ⟨by decide, by decide⟩

theorem standIn_eq_iff : standIn c = standIn d ↔ Alike c d := by
  by_cases hc : IsReplaced c
  · by_cases hd : IsReplaced d
    · rw [standIn_of_isReplaced hc, standIn_of_isReplaced hd]
      exact iff_of_true rfl (Or.inr ⟨hc, hd⟩)
    · rw [standIn_of_isReplaced hc, standIn_of_not_isReplaced hd]
      refine iff_of_false (fun h => hd (h ▸ isReplaced_underscore)) ?_
      rintro (rfl | h)
      · exact hd hc
      · exact hd h.2
  · by_cases hd : IsReplaced d
    · rw [standIn_of_not_isReplaced hc, standIn_of_isReplaced hd]
      refine iff_of_false (fun h => hc (h ▸ isReplaced_underscore)) ?_
      rintro (rfl | h)
      · exact hc hd
      · exact hc h.1
    · rw [standIn_of_not_isReplaced hc, standIn_of_not_isReplaced hd]
      exact (or_iff_left fun h => hc h.1).symm

theorem map_standIn_eq_iff : k.toList.map standIn = k'.toList.map standIn ↔ SameFile k k' := by
  have halike : Alike = fun c d => standIn c = standIn d := by
    funext c d
    exact propext standIn_eq_iff.symm
  rw [SameFile, halike, ← List.forall₂_eq_eq_eq, List.forall₂_map_left_iff, List.forall₂_map_right_iff]

theorem fileName_eq_iff : fileName k = fileName k' ↔ SameFile k k' := by
  rw [← map_standIn_eq_iff, ← String.ofList_inj]
  exact String.append_left_inj ".json"

/-- Under other names, different ones for different keys, a store in memory replies as it does under the keys. -/
theorem replies_rename {f : String → String} {keys : Set String} (hf : Set.InjOn f keys) {calls : List StoreCall}
    {m m' : Entries Answers} (hm : ∀ key ∈ keys, m'.get? (f key) = m.get? key) (hcalls : ∀ c ∈ calls, c.key ∈ keys) :
    Questionnaire.replies inMemory m' (calls.map (rename f)) = Questionnaire.replies inMemory m calls := by
  induction calls generalizing m m' with
  | nil => rfl
  | cons c rest ih =>
    rw [List.forall_mem_cons] at hcalls
    -- The names lead to what the keys led to, since no other key that is in use has the name of the called one.
    have hkeep : ∀ key ∈ keys, (inMemory m' (c.rename f)).1.get? (f key) = (inMemory m c).1.get? key := by
      intro key hkey
      have hname : f c.key = f key ↔ c.key = key := hf.eq_iff hcalls.1 hkey
      cases c with
      | get key' => exact hm key hkey
      | set key' answers =>
        rw [rename, inMemory, inMemory, Entries.get?_insert, Entries.get?_insert, hm key hkey]
        exact if_congr hname rfl rfl
      | clear key' =>
        rw [rename, inMemory, inMemory, Entries.get?_erase, Entries.get?_erase, hm key hkey]
        exact if_congr hname rfl rfl
    have hreply : (inMemory m' (c.rename f)).2 = (inMemory m c).2 := by
      cases c with
      | get key => exact hm key hcalls.1
      | set | clear => rfl
    rw [List.map_cons, Questionnaire.replies, Questionnaire.replies, hreply, ih hkeep hcalls.2]

end

end FileStore

/-- The first two letters tell the kinds of documents apart. -/
theorem DocumentKind.eq_of_take {a b : DocumentKind}
    (h : (a.name.toList.map FileStore.standIn).take 2 = (b.name.toList.map FileStore.standIn).take 2) : a = b := by
  revert h
  cases a <;> cases b <;> decide

theorem sameFile_cacheKey_iff {d e : Document} :
    SameFile d.cacheKey e.cacheKey ↔ d.kind = e.kind ∧ SameFile d.id e.id := by
  have hlength : ∀ kind : DocumentKind, 2 ≤ (kind.name.toList.map FileStore.standIn).length := by
    intro kind
    cases kind <;> decide
  simp only [← FileStore.map_standIn_eq_iff, Document.cacheKey, String.toList_append, List.map_append,
    List.append_assoc]
  constructor
  · intro h
    -- The names of kinds differ in length, so the ids stand at the same place only once the kinds are known to agree.
    have htake := congrArg (List.take 2) h
    rw [List.take_append_of_le_length (hlength _), List.take_append_of_le_length (hlength _)] at htake
    have hkind : d.kind = e.kind := DocumentKind.eq_of_take htake
    rw [hkind] at h
    exact ⟨hkind, List.append_cancel_right (List.append_cancel_left (List.append_cancel_left h))⟩
  · rintro ⟨hkind, hid⟩
    rw [hkind, hid]

namespace FileStore

/-- On these keys a store in a new folder replies to every sequence of calls as a store in memory does. -/
def Faithful (made : Bool) (keys : Set String) : Prop :=
  ∀ calls : List StoreCall, (∀ c ∈ calls, c.key ∈ keys ∧ c.ReadsBack) →
    Questionnaire.replies inFolder ⟨made, []⟩ calls = (Questionnaire.replies inMemory ∅ calls).map .ok

theorem isReadBack_empty : Answers.IsReadBack ∅ := by rfl

section
variable {made : Bool} {keys : Set String} {k k' : String} {answers : Answers}

theorem forall_mem_set_get (hk : k ∈ keys) (hk' : k' ∈ keys) (hread : answers.IsReadBack) :
    ∀ c ∈ [StoreCall.set k answers, .get k'], c.key ∈ keys ∧ c.ReadsBack :=
  List.forall_mem_cons.mpr ⟨⟨hk, hread⟩, List.forall_mem_singleton.mpr ⟨hk', trivial⟩⟩

/-- What is set under one of two keys that share a file is got under the other. -/
theorem replies_of_sameFile (made : Bool) (hfits : Fits k) (hread : answers.IsReadBack) (h : SameFile k k') :
    Questionnaire.replies inFolder ⟨made, []⟩ [.set k answers, .get k'] = [.ok none, .ok (some answers)] := by
  have hname : fileName k = fileName k' := fileName_eq_iff.mpr h
  have hfits' : Fits k' := by rwa [Fits, ← hname]
  have hcalls : ∀ c ∈ [StoreCall.set k answers, .get k'], c.key ∈ {key | Fits key} ∧ c.ReadsBack :=
    forall_mem_set_get hfits hfits' hread
  rw [(keeps_empty made).replies hcalls]
  simp [Questionnaire.replies, rename, inMemory, Entries.get?_insert, hname]

theorem replies_of_ne (hne : k ≠ k') :
    Questionnaire.replies inMemory ∅ [.set k answers, .get k'] = [none, none] := by
  simp [Questionnaire.replies, inMemory, Entries.get?_insert, hne]
  rfl

/-- The store is faithful on the keys exactly if no two of them share a file. -/
theorem faithful_iff (hfits : ∀ key ∈ keys, Fits key) :
    Faithful made keys ↔ ∀ k ∈ keys, ∀ k' ∈ keys, SameFile k k' → k = k' := by
  constructor
  · intro h k hk k' hk' hsame
    by_contra hne
    -- What is set under one of the two keys is got under the other from the folder, and not from memory.
    have hreplies := h _ (forall_mem_set_get hk hk' isReadBack_empty)
    rw [replies_of_sameFile made (hfits k hk) isReadBack_empty hsame, replies_of_ne hne] at hreplies
    cases hreplies
  · intro h calls hcalls
    have hinj : Set.InjOn fileName keys := fun k hk k' hk' hname => h k hk k' hk' (fileName_eq_iff.mp hname)
    have hempty : ∀ key ∈ keys, (∅ : Entries Answers).get? (fileName key) = (∅ : Entries Answers).get? key :=
      fun _ _ => rfl
    rw [(keeps_empty made).replies fun c hc => ⟨hfits _ (hcalls c hc).1, (hcalls c hc).2⟩,
      replies_rename hinj hempty fun c hc => (hcalls c hc).1]

end

/-- **A store in a folder is a store in memory under the names of its files.** It replies to every sequence of calls as
such a store would. So on a set of keys it replies as a store in memory exactly if no two of the keys are alike at every
place. The keys of two documents are if the documents are of one kind and their ids are. -/
theorem replies_under_file_names (made : Bool) :
    (∀ calls : List StoreCall, (∀ c ∈ calls, Fits c.key ∧ c.ReadsBack) →
      Questionnaire.replies inFolder ⟨made, []⟩ calls =
        (Questionnaire.replies inMemory ∅ (calls.map (rename fileName))).map .ok) ∧
    (∀ keys : Set String, (∀ key ∈ keys, Fits key) →
      (Faithful made keys ↔ ∀ k ∈ keys, ∀ k' ∈ keys, SameFile k k' → k = k')) ∧
    ∀ d e : Document, SameFile d.cacheKey e.cacheKey ↔ d.kind = e.kind ∧ SameFile d.id e.id :=
  ⟨fun _ hcalls => (keeps_empty made).replies hcalls, fun _ hfits => faithful_iff hfits,
    fun _ _ => sameFile_cacheKey_iff⟩

def noted : Answers := Entries.ofList [("q", .text "x")]

theorem isReadBack_noted : noted.IsReadBack := by
  -- Equality of answers is not decidable, as they may have numbers in them: the texts among them are compared.
  have htexts : ((Answers.ofText .json noted.written).toOption.map fun a => a.toList.map fun m => (m.1, m.2.text?)) =
      some [("q", some "x")] := by
    decide +kernel
  obtain ⟨a, ha, hlist⟩ := Option.map_eq_some_iff.mp htexts
  obtain ⟨⟨name, v⟩, rest, hmembers, hmember, hrest⟩ := List.map_eq_cons_iff.mp hlist
  obtain rfl := List.map_eq_nil_iff.mp hrest
  obtain ⟨rfl, hv⟩ := Prod.mk.inj hmember
  obtain rfl : a = noted := by
    refine Entries.ext (hmembers.trans ?_)
    cases v with
    | text s => rw [Option.some.inj hv]; rfl
    | _ => cases hv
  unfold Answers.IsReadBack
  cases hread : Answers.ofText .json noted.written with
  | error e => rw [hread] at ha; cases ha
  | ok b => rw [hread] at ha; exact congrArg Except.ok (Option.some.inj ha)

/-- A form with that id. -/
def form (id : String) : Document := { id := id, kind := .form, pages := [] }

/-- Two forms with an answer each, of which one is removed. -/
def twoForms : List StoreCall :=
  [.set (form "a").cacheKey noted, .set (form "b").cacheKey ∅, .clear (form "b").cacheKey, .get (form "a").cacheKey,
    .get (form "b").cacheKey]

def twoKeys : Set String := {(form "a").cacheKey, (form "b").cacheKey}

theorem replies_under_file_names_of_two : Questionnaire.replies inFolder ⟨false, []⟩ twoForms =
    [.ok none, .ok none, .ok none, .ok (some noted), .ok none] := by
  have hfits : ∀ key ∈ twoKeys, Fits key := by
    rintro key (rfl | rfl) <;> decide
  have hapart : ∀ k ∈ twoKeys, ∀ k' ∈ twoKeys, SameFile k k' → k = k' := by
    simp only [← fileName_eq_iff]
    rintro k (rfl | rfl) k' (rfl | rfl) <;> decide
  have hfaithful : Faithful false twoKeys := ((replies_under_file_names false).2.1 _ hfits).mpr hapart
  have ha : (form "a").cacheKey ∈ twoKeys := Or.inl rfl
  have hb : (form "b").cacheKey ∈ twoKeys := Or.inr rfl
  have hcalls : ∀ c ∈ twoForms, c.key ∈ twoKeys ∧ c.ReadsBack := by
    simp only [twoForms, List.forall_mem_cons]
    exact ⟨⟨ha, isReadBack_noted⟩, ⟨hb, isReadBack_empty⟩, ⟨hb, trivial⟩, ⟨ha, trivial⟩, ⟨hb, trivial⟩,
      List.forall_mem_nil _⟩
  exact (hfaithful twoForms hcalls).trans rfl

/-- The answers of one document are found by another one, whose id has a dot in place of a slash. -/
theorem slash_and_dot_share_a_file :
    (form "a/b").cacheKey ≠ (form "a.b").cacheKey ∧
    Questionnaire.replies inFolder ⟨false, []⟩ [.set (form "a/b").cacheKey noted, .get (form "a.b").cacheKey] =
      [.ok none, .ok (some noted)] ∧
    Questionnaire.replies inMemory ∅ [.set (form "a/b").cacheKey noted, .get (form "a.b").cacheKey] = [none, none] ∧
    ¬ Faithful false {(form "a/b").cacheKey, (form "a.b").cacheKey} := by
  have hne : (form "a/b").cacheKey ≠ (form "a.b").cacheKey := by decide
  have hsame : SameFile (form "a/b").cacheKey (form "a.b").cacheKey := fileName_eq_iff.mp (by decide)
  have hfolder := replies_of_sameFile false (by decide) isReadBack_noted hsame
  have hmemory : Questionnaire.replies inMemory ∅
      [.set (form "a/b").cacheKey noted, .get (form "a.b").cacheKey] = [none, none] := replies_of_ne hne
  refine ⟨hne, hfolder, hmemory, fun h => ?_⟩
  have hreplies := h _ (forall_mem_set_get (Set.mem_insert _ _) (Set.mem_insert_of_mem _ rfl) isReadBack_noted)
  rw [hfolder, hmemory] at hreplies
  cases hreplies

end FileStore

end Questionnaire
