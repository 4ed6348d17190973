/-
  `path_information_db` under the operations of `PathValidator`: building it from a file,
  validating a path against it, printing it and deleting it.

  * `sound_iff`: in a run of these every pointer of the database stays non-null, and validating
    leaves its keys as they are, exactly if every path that is validated is a key when its turn
    comes.
  * `loads_iff`: when the answer of a build says what it should, and a build that fails leaves
    the database as it was. The entries before the element that fails have been stored.
-/
import TelemetryAgent.Lib.OrderedMap
import TelemetryAgent.Lib.Run
import TelemetryAgent.PathValidator.SampleFrequency

namespace TelemetryAgent

open Std TelemetryAgent.Lib

namespace PathValidator

/-! ## Printing and deleting -/

/-- `std::to_string` of a Boolean -/
def boolToString (b : Bool) : String := if b then "1" else "0"

/-- The line that is logged for an entry. -/
def pathinfoStr (key : String) (info : PathInformation) : String :=
  "<PathInformation DB>" ++ key ++ "--->" ++
  ("path:" ++ info.path ++ ",") ++
  ("filter_support:" ++ boolToString info.filterSupport ++ ",") ++
  ("suppress_unchanged_support:" ++ boolToString info.suppressUnchangedSupport ++ ",") ++
  ("max_silent_interval_support:" ++ boolToString info.maxSilentIntervalSupport ++ ",") ++
  ("sample_frequency_min:" ++ toString info.sampleFrequencyMin ++ ",") ++
  ("sample_frequency_max:" ++ toString info.sampleFrequencyMax)

/-- The lines in the order of the keys. `none` is the dereference of a null pointer. -/
def printPathInformationDb (db : PathInformationDB) : Option (List String) :=
  db.toList.mapM fun (key, info) => info.map (pathinfoStr key)

/-- The entries are erased one by one from the first. -/
def deletePathInformationDb (db : PathInformationDB) : PathInformationDB :=
  db.toList.foldl (fun db e => db.erase e.1) db

/-! ## Runs -/

inductive Call where
  | build (text : List Char)
  | validate (path : Path)
  | print
  | delete

variable {ν : Type} (lib : Jsoncpp ν) (conv : JsonConversions ν)

def step (db : PathInformationDB) : Call → Option PathInformationDB
  | .build text => (buildPathInformationDb lib conv db text).map Prod.snd
  | .validate path => some (validatePath db path).2
  | .print => (printPathInformationDb db).map fun _ => db
  | .delete => some (deletePathInformationDb db)

/-- A path that is validated is a key. -/
def KnownPath (db : PathInformationDB) (call : Call) : Prop :=
  ∀ path, call = .validate path → path.path ∈ db

/-- No pointer of the database is null, so that it can be printed, and if the next call
    validates a path the keys stay. -/
structure Sound (db : PathInformationDB) (calls : List Call) : Prop where
  nonNull : ∀ (k : String) v, db[k]? = some v → v ≠ none
  printed : (printPathInformationDb db).isSome = true
  keys : ∀ path rest, calls = .validate path :: rest →
    ∀ k, k ∈ (validatePath db path).2 ↔ k ∈ db

variable {lib conv} {db db' : PathInformationDB}

theorem isSome_mapM {α β : Type} {f : α → Option β} {l : List α}
    (h : ∀ x ∈ l, (f x).isSome = true) : (l.mapM f).isSome = true := by
  induction l with
  | nil => rfl
  | cons x l ih =>
    obtain ⟨y, hy⟩ := Option.isSome_iff_exists.mp (h x List.mem_cons_self)
    obtain ⟨ys, hys⟩ := Option.isSome_iff_exists.mp
      (ih fun z hz => h z (List.mem_cons_of_mem x hz))
    rw [List.mapM_cons, hy, hys]
    rfl

theorem isSome_printPathInformationDb (h : ∀ (k : String) v, db[k]? = some v → v ≠ none) :
    (printPathInformationDb db).isSome = true := by
  apply isSome_mapM
  rintro ⟨k, v⟩ he
  have hv := h k v (ExtTreeMap.mem_toList_iff_getElem?_eq_some.mp he)
  rw [Option.isSome_map]
  exact Option.isSome_iff_ne_none.mpr hv

theorem Filed.ne_none (h : Filed db) {k : String} {v : Option PathInformation}
    (hv : db[k]? = some v) : v ≠ none := by
  obtain ⟨info, rfl, -⟩ := h k v hv
  exact Option.some_ne_none info

theorem validatePath_snd_of_mem (hf : Filed db) {path : Path} (h : path.path ∈ db) :
    (validatePath db path).2 = db := by
  obtain ⟨v, hv⟩ := Option.isSome_iff_exists.mp (ExtTreeMap.mem_iff_isSome_getElem?.mp h)
  obtain ⟨info, rfl, -⟩ := hf _ _ hv
  rw [validatePath_of_known hv]

/-- A path that is no key becomes one, with a null pointer. -/
theorem getElem?_validatePath_of_not_mem {path : Path} (h : path.path ∉ db) :
    (validatePath db path).2[path.path]? = some none := by
  have hnone : db[path.path]? = none := ExtTreeMap.getElem?_eq_none h
  unfold validatePath subscript
  rw [hnone]
  exact ExtTreeMap.getElem?_insert_self

theorem filed_step (hf : Filed db) {call : Call} (hk : KnownPath db call)
    (hs : step lib conv db call = some db') : Filed db' := by
  match call with
  | .build text =>
    obtain ⟨⟨status, db₁⟩, hb, rfl⟩ := Option.map_eq_some_iff.mp hs
    exact filed_build hf hb
  | .validate path =>
    rw [← Option.some.inj hs, validatePath_snd_of_mem hf (hk path rfl)]
    exact hf
  | .print =>
    obtain ⟨lines, -, rfl⟩ := Option.map_eq_some_iff.mp hs
    exact hf
  | .delete =>
    rw [← Option.some.inj hs, deletePathInformationDb, foldl_erase_toList]
    exact filed_empty

/-- **The database.** Every state of a run is sound exactly if every path that the run
    validates is a key of the database when its turn comes. -/
theorem sound_iff (lib : Jsoncpp ν) (conv : JsonConversions ν) (calls : List Call) :
    (∀ pre suf db, calls = pre ++ suf → run (step lib conv) ∅ pre = some db → Sound db suf) ↔
      Meets (step lib conv) KnownPath ∅ calls := by
  constructor
  · intro h
    have hnull : ∀ pre suf db, calls = pre ++ suf → run (step lib conv) ∅ pre = some db →
        ∀ (k : String) v, db[k]? = some v → v ≠ none :=
      fun pre suf db hcalls hr => (h pre suf db hcalls hr).nonNull
    have hfiled : ∀ db : PathInformationDB, Filed db → ∀ (k : String) v, db[k]? = some v →
        v ≠ none := fun _ hf _ _ => hf.ne_none
    refine (forall_reached_iff_meets hfiled
      (fun _ _ _ hf hk hs => filed_step hf hk hs) ?_ ?_ filed_empty calls).mp hnull
    · rintro db call db' - hs hp path rfl
      by_contra hnot
      apply hp path.path none
      · rw [← Option.some.inj hs]
        exact getElem?_validatePath_of_not_mem hnot
      · rfl
    · rintro db call - hs path rfl
      exact absurd hs (by simp [step])
  · rintro hm pre suf db rfl hr
    obtain ⟨hpre, hsuf⟩ := meets_append.mp hm
    have hf : Filed db :=
      run_invariant (fun _ _ _ hf hk hs => filed_step hf hk hs) filed_empty hpre hr
    refine ⟨fun _ _ => hf.ne_none, isSome_printPathInformationDb fun _ _ => hf.ne_none, ?_⟩
    rintro path rest rfl k
    rw [validatePath_snd_of_mem hf ((hsuf db hr).1 path rfl)]

/-- After a request for a path that is not in the file, the database cannot be printed. -/
theorem not_sound_unknown_path :
    ∃ db : PathInformationDB, run (step (fileJsoncpp boundedPaths) intConversions) ∅
        [.build (boundedPaths.write intSpelling), .validate { path := "port" }] = some db ∧
      db["port"]? = some none ∧ printPathInformationDb db = none ∧ ¬ Sound db [.print] := by
  refine ⟨(validatePath ((∅ : PathInformationDB).insert "firewall" (some boundedEntry))
    { path := "port" }).2, ?_, by decide +kernel, by decide +kernel, fun h => ?_⟩
  · rw [run_cons, step, build_boundedPaths]
    rfl
  · exact absurd rfl (h.nonNull "port" none (by decide +kernel))

/-! ## Loading a file -/

/-- The list of a document that has one. -/
def validPaths : Json ν → Option (List (Json ν))
  | .obj ms => (ms.lookup "valid_paths").bind Json.items?
  | _ => none

/-- An object with a member `path`. -/
def HasPath : Json ν → Prop
  | .obj ms => (ms.lookup "path").isSome = true
  | _ => False

variable (lib conv) in
/-- A build says whether the document is a list of objects with paths, and if it answers
    `false` it leaves the database as it was. An exception is no answer. -/
structure Loads (db : PathInformationDB) (text : List Char) : Prop where
  succeeds : (∃ db', buildPathInformationDb lib conv db text = some (true, db')) ↔
    ∃ json objs, lib.parse text = some json ∧ validPaths json = some objs ∧
      ∀ obj ∈ objs, HasPath obj
  unchanged : ∀ db', buildPathInformationDb lib conv db text = some (false, db') → db' = db

variable (conv) in
/-- An element that the loop stores: its path is not null and its members convert. -/
def Accepted (obj : Json ν) : Prop :=
  obj.key "path" ≠ some .null ∧ (pathInformationOf conv obj).isSome = true

/-- The database has the entries: of two for one path the later. -/
def Stored (db : PathInformationDB) (infos : List PathInformation) : Prop :=
  ∀ (k : String) info, infos.reverse.find? (fun i => i.path = k) = some info →
    db[k]? = some (some info)

variable (conv) in
/-- The list is accepted to its end; or it is not, nor should it be, and where it is given up
    for want of a path the entries before were in the database already. -/
def ListOk (db : PathInformationDB) (objs : List (Json ν)) : Prop :=
  (∀ obj ∈ objs, Accepted conv obj) ∨
    ∃ pre obj post, objs = pre ++ obj :: post ∧ (∀ o ∈ pre, Accepted conv o) ∧
      ¬ Accepted conv obj ∧ (∃ o ∈ objs, ¬ HasPath o) ∧
      (obj.key "path" = some .null → Stored db (pre.filterMap (pathInformationOf conv)))

/-- The entries stored one after the other. -/
def storeAll (db : PathInformationDB) (infos : List PathInformation) : PathInformationDB :=
  infos.foldl (fun db info => db.insert info.path (some info)) db

theorem storeAll_eq_self_iff {infos : List PathInformation} :
    storeAll db infos = db ↔ Stored db infos := by
  have hget : ∀ k : String, (storeAll db infos)[k]? =
      ((infos.reverse.find? fun i => i.path = k).map some).or db[k]? :=
    getElem?_foldl_insert_last PathInformation.path some infos db
  constructor
  · intro h k info hk
    have hread := hget k
    rw [h, hk] at hread
    exact hread
  · intro h
    refine ExtTreeMap.ext_getElem? fun k => ?_
    rw [hget]
    cases hk : infos.reverse.find? fun i => i.path = k with
    | none => rfl
    | some info => exact (h k info hk).symm

theorem Accepted.hasPath {obj : Json ν} (h : Accepted conv obj) : HasPath obj := by
  obtain ⟨hnull, hinfo⟩ := h
  cases obj with
  | obj ms =>
    cases hl : ms.lookup "path" with
    | some v => exact Option.isSome_of_eq_some hl
    | none =>
      rw [Json.key, hl] at hnull
      exact absurd rfl hnull
  | null => exact absurd rfl hnull
  | _ => exact absurd hinfo (by simp [pathInformationOf, Json.key])

theorem addPathInformation_cons (db : PathInformationDB) {obj : Json ν} (objs : List (Json ν))
    (h : Accepted conv obj) :
    ∃ info, pathInformationOf conv obj = some info ∧
      addPathInformation conv db (obj :: objs) =
        addPathInformation conv (db.insert info.path (some info)) objs := by
  obtain ⟨hnull, hinfo⟩ := h
  obtain ⟨info, hinfo⟩ := Option.isSome_iff_exists.mp hinfo
  refine ⟨info, hinfo, ?_⟩
  cases hkey : obj.key "path" with
  | none => exact absurd hinfo (by simp [pathInformationOf, hkey])
  | some v =>
    cases v with
    | null => exact absurd hkey hnull
    | _ => simp [addPathInformation, hkey, hinfo]

/-- The loop goes through the elements that it accepts. -/
theorem addPathInformation_append (db : PathInformationDB) {pre : List (Json ν)}
    (rest : List (Json ν)) (h : ∀ o ∈ pre, Accepted conv o) :
    addPathInformation conv db (pre ++ rest) =
      addPathInformation conv (storeAll db (pre.filterMap (pathInformationOf conv))) rest := by
  induction pre generalizing db with
  | nil => rfl
  | cons obj pre ih =>
    obtain ⟨info, hinfo, hstep⟩ :=
      addPathInformation_cons db (pre ++ rest) (h obj List.mem_cons_self)
    rw [List.cons_append, hstep, ih _ fun o ho => h o (List.mem_cons_of_mem obj ho),
      List.filterMap_cons_some hinfo]
    rfl

theorem addPathInformation_of_accepted {objs : List (Json ν)} (h : ∀ o ∈ objs, Accepted conv o) :
    addPathInformation conv db objs =
      some (true, storeAll db (objs.filterMap (pathInformationOf conv))) := by
  have := addPathInformation_append db [] h
  rw [List.append_nil] at this
  rw [this, addPathInformation]

/-- It ends at the first element that it does not accept. -/
theorem addPathInformation_of_not_accepted (db : PathInformationDB) {pre : List (Json ν)}
    (post : List (Json ν)) {obj : Json ν}
    (h : ∀ o ∈ pre, Accepted conv o) (hobj : ¬ Accepted conv obj) :
    (obj.key "path" = some .null ∧ addPathInformation conv db (pre ++ obj :: post) =
      some (false, storeAll db (pre.filterMap (pathInformationOf conv)))) ∨
    (obj.key "path" ≠ some .null ∧ addPathInformation conv db (pre ++ obj :: post) = none) := by
  rw [addPathInformation_append db _ h]
  cases hkey : obj.key "path" with
  | none =>
    refine .inr ⟨by simp, ?_⟩
    simp [addPathInformation, hkey]
  | some v =>
    have hinfo : v ≠ .null → pathInformationOf conv obj = none := by
      intro hv
      by_contra hne
      exact hobj ⟨fun he => hv (Option.some.inj (hkey.symm.trans he)),
        Option.isSome_iff_ne_none.mpr hne⟩
    cases v with
    | null =>
      refine .inl ⟨rfl, ?_⟩
      simp [addPathInformation, hkey]
    | _ =>
      refine .inr ⟨by simp, ?_⟩
      simp [addPathInformation, hkey, hinfo]

theorem exists_first_not {α : Type} {p : α → Prop} {l : List α} (h : ¬ ∀ x ∈ l, p x) :
    ∃ pre x post, l = pre ++ x :: post ∧ (∀ y ∈ pre, p y) ∧ ¬ p x := by
  induction l with
  | nil => exact absurd (by simp) h
  | cons a l ih =>
    by_cases ha : p a
    · obtain ⟨pre, x, post, rfl, hpre, hx⟩ :=
        ih fun hl => h (List.forall_mem_cons.mpr ⟨ha, hl⟩)
      exact ⟨a :: pre, x, post, rfl, List.forall_mem_cons.mpr ⟨ha, hpre⟩, hx⟩
    · exact ⟨[], a, l, rfl, by simp, ha⟩

variable (conv) in
/-- What `Loads` says of the loop. -/
def LoopLoads (db : PathInformationDB) (objs : List (Json ν)) : Prop :=
  ((∃ db', addPathInformation conv db objs = some (true, db')) ↔ ∀ obj ∈ objs, HasPath obj) ∧
    ∀ db', addPathInformation conv db objs = some (false, db') → db' = db

theorem loopLoads_split_iff {pre post : List (Json ν)} {obj : Json ν}
    (h : ∀ o ∈ pre, Accepted conv o) (hobj : ¬ Accepted conv obj) :
    LoopLoads conv db (pre ++ obj :: post) ↔ (∃ o ∈ pre ++ obj :: post, ¬ HasPath o) ∧
      (obj.key "path" = some .null → Stored db (pre.filterMap (pathInformationOf conv))) := by
  have hnot : ¬ ∃ db', addPathInformation conv db (pre ++ obj :: post) = some (true, db') := by
    rintro ⟨db', he⟩
    obtain ⟨-, hr⟩ | ⟨-, hr⟩ := addPathInformation_of_not_accepted db post h hobj
    · rw [hr] at he
      exact absurd he (by simp)
    · rw [hr] at he
      exact absurd he (by simp)
  have hpath : (∃ o ∈ pre ++ obj :: post, ¬ HasPath o) ↔
      ¬ ∀ o ∈ pre ++ obj :: post, HasPath o := by
    simp only [not_forall, exists_prop]
  unfold LoopLoads
  rw [iff_false_left hnot, hpath]
  refine and_congr_right fun _ => ?_
  obtain ⟨hnull, hr⟩ | ⟨hnull, hr⟩ :=
    addPathInformation_of_not_accepted db post h hobj
  · rw [hr, ← storeAll_eq_self_iff]
    constructor
    · intro hun _
      exact hun _ rfl
    · intro hst db' he
      rw [Option.some.injEq, Prod.mk.injEq] at he
      rw [← he.2]
      exact hst hnull
  · rw [hr]
    refine iff_of_true (fun db' he => absurd he (by simp)) fun he => absurd he hnull

theorem loopLoads_iff (objs : List (Json ν)) : LoopLoads conv db objs ↔ ListOk conv db objs := by
  by_cases hall : ∀ obj ∈ objs, Accepted conv obj
  · unfold LoopLoads
    rw [addPathInformation_of_accepted hall]
    refine iff_of_true ⟨iff_of_true ⟨_, rfl⟩ fun obj ho => (hall obj ho).hasPath, ?_⟩ (.inl hall)
    intro db' h
    exact absurd h (by simp)
  · constructor
    · intro h
      obtain ⟨pre, obj, post, rfl, hpre, hobj⟩ := exists_first_not hall
      obtain ⟨hpath, hstored⟩ := (loopLoads_split_iff hpre hobj).mp h
      exact .inr ⟨pre, obj, post, rfl, hpre, hobj, hpath, hstored⟩
    · rintro (h | ⟨pre, obj, post, rfl, hpre, hobj, hpath, hstored⟩)
      · exact absurd h hall
      · exact (loopLoads_split_iff hpre hobj).mpr ⟨hpath, hstored⟩

/-- A document without a list is answered with `false`, or raises an exception. -/
theorem build_of_no_list {text : List Char} {json : Json ν} (hp : lib.parse text = some json)
    (hl : validPaths json = none) :
    buildPathInformationDb lib conv db text = some (false, db) ∨
      buildPathInformationDb lib conv db text = none := by
  unfold buildPathInformationDb
  rw [hp]
  cases json with
  | obj ms =>
    left
    cases hv : ms.lookup "valid_paths" with
    | none => simp [Json.key, hv]
    | some v =>
      cases v with
      | arr objs =>
        rw [validPaths, hv] at hl
        exact absurd hl (by simp [Json.items?])
      | _ => simp [Json.key, hv]
  | null => exact .inl rfl
  | _ => exact .inr rfl

variable (conv db) in
theorem build_of_list {text : List Char} {json : Json ν} {objs : List (Json ν)}
    (hp : lib.parse text = some json) (hl : validPaths json = some objs) :
    buildPathInformationDb lib conv db text = addPathInformation conv db objs := by
  unfold buildPathInformationDb
  rw [hp]
  cases json with
  | obj ms =>
    obtain ⟨v, hv, hitems⟩ := Option.bind_eq_some_iff.mp hl
    cases v with
    | arr js =>
      obtain rfl := Option.some.inj hitems
      simp [Json.key, hv]
    | _ => exact absurd hitems (by simp [Json.items?])
  | _ => exact absurd hl (by simp [validPaths])

theorem loads_of_no_list {text : List Char}
    (hl : ∀ json objs, lib.parse text = some json → validPaths json ≠ some objs) :
    Loads lib conv db text := by
  have hb : buildPathInformationDb lib conv db text = some (false, db) ∨
      buildPathInformationDb lib conv db text = none := by
    cases hp : lib.parse text with
    | none =>
      left
      unfold buildPathInformationDb
      rw [hp]
    | some json =>
      exact build_of_no_list hp (Option.eq_none_iff_forall_ne_some.mpr fun objs => hl json objs hp)
  refine ⟨iff_of_false ?_ ?_, ?_⟩
  · rintro ⟨db', h⟩
    obtain hb | hb := hb
    · exact absurd (hb.symm.trans h) (by simp)
    · exact absurd (hb.symm.trans h) (by simp)
  · rintro ⟨json, objs, hp, hv, -⟩
    exact hl json objs hp hv
  · intro db' h
    obtain hb | hb := hb
    · rw [hb, Option.some.injEq, Prod.mk.injEq] at h
      exact h.2.symm
    · exact absurd (hb.symm.trans h) (by simp)

theorem loads_iff_loopLoads {text : List Char} {json : Json ν} {objs : List (Json ν)}
    (hp : lib.parse text = some json) (hl : validPaths json = some objs) :
    Loads lib conv db text ↔ LoopLoads conv db objs := by
  have hlist : (∃ json objs, lib.parse text = some json ∧ validPaths json = some objs ∧
      ∀ obj ∈ objs, HasPath obj) ↔ ∀ obj ∈ objs, HasPath obj := by
    constructor
    · rintro ⟨json', objs', hp', hl', h⟩
      obtain rfl := Option.some.inj (hp.symm.trans hp')
      obtain rfl := Option.some.inj (hl.symm.trans hl')
      exact h
    · intro h
      exact ⟨json, objs, hp, hl, h⟩
  have hb := build_of_list conv db hp hl
  constructor
  · rintro ⟨h1, h2⟩
    rw [hb, hlist] at h1
    rw [hb] at h2
    exact ⟨h1, h2⟩
  · rintro ⟨h1, h2⟩
    refine ⟨?_, ?_⟩
    · rw [hb, hlist]
      exact h1
    · rw [hb]
      exact h2

/-- **Loading.** For every database and every text, a build answers as it should and fails
    without a change exactly if the list of the document, where there is one, is `ListOk`. -/
theorem loads_iff (lib : Jsoncpp ν) (conv : JsonConversions ν) (db : PathInformationDB)
    (text : List Char) :
    Loads lib conv db text ↔ ∀ json objs, lib.parse text = some json →
      validPaths json = some objs → ListOk conv db objs := by
  constructor
  · intro h json objs hp hl
    exact (loopLoads_iff objs).mp ((loads_iff_loopLoads hp hl).mp h)
  · intro h
    by_cases hl : ∃ json objs, lib.parse text = some json ∧ validPaths json = some objs
    · obtain ⟨json, objs, hp, hl⟩ := hl
      exact (loads_iff_loopLoads hp hl).mpr ((loopLoads_iff objs).mpr (h json objs hp hl))
    · exact loads_of_no_list fun json objs hp hv => hl ⟨json, objs, hp, hv⟩

/-- The file lists `firewall` and then an object without a path. -/
def pathlessPaths : Json Int :=
  .obj [("valid_paths", .arr [.obj [("path", .str "firewall")], .obj []])]

/-- The build fails and has stored the first entry. -/
theorem not_loads_pathless :
    buildPathInformationDb (fileJsoncpp pathlessPaths) intConversions ∅
        (pathlessPaths.write intSpelling) =
      some (false, (∅ : PathInformationDB).insert "firewall" (some { path := "firewall" })) ∧
    ¬ Loads (fileJsoncpp pathlessPaths) intConversions ∅ (pathlessPaths.write intSpelling) := by
  have hb : buildPathInformationDb (fileJsoncpp pathlessPaths) intConversions ∅
      (pathlessPaths.write intSpelling) =
        some (false, (∅ : PathInformationDB).insert "firewall" (some { path := "firewall" })) := by
    unfold buildPathInformationDb
    rw [fileJsoncpp_parse]
    rfl
  refine ⟨hb, fun h => ?_⟩
  have hempty := congrArg (fun db : PathInformationDB => db["firewall"]?) (h.unchanged _ hb)
  exact absurd hempty (by decide +kernel)

end PathValidator

end TelemetryAgent
