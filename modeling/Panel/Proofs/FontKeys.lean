import Panel.Proofs.AcceptedEntries
import Panel.Proofs.FontTables
import Panel.Proofs.FormatPattern
import Panel.Proofs.Lengths
import Panel.Proofs.NumberRanges
import Panel.Proofs.PictureRules
import Panel.Proofs.StyleCoverage

/-! # Keys of fonts — the faces in use are not mixed up

    The key of a font joins free text by colons.  It is read from its end: a weight and a slant have
    no colon in them, so the family is all that stands before the last two. -/

namespace Panel

open List Test Check Record

variable {v w a b : Value} {es : Entries} {s t : Session}

namespace Font

/-- What tells a font file from others: of the service, of an address, or of a file. -/
inductive Origin where
  | service (family : String) (italic : Bool) (weight : Value)
  | address (url : String)
  | file (path : String)

/-- A settled description says where a font file is from, and nothing else.  A weight is an integer,
    or a truth value, which counts as one. -/
def Tells (v : Value) : Origin → Prop
  | .service family italic weight => v.get? "type" = some (.str "gfonts")
      ∧ (v.get? "family").bind Value.text? = some family ∧ v.get? "italic" = some (.bool italic)
      ∧ v.get? "weight" = some weight ∧ ∃ n, intOf? weight = some n
  | .address url => v.get? "type" = some (.str "web")
      ∧ v.get? "family" = none ∧ (v.get? "url").bind Value.text? = some url
  | .file path => v.get? "type" = some (.str "local")
      ∧ v.get? "family" = none ∧ v.get? "url" = none ∧ v.get? "path" = some (.str path)

def Origin.source : Origin → Source
  | .service family italic weight => .family family (if italic then 1 else 0) weight.show
  | .address url => .web url
  | .file path => .file path

/-! ## Reading a key -/

theorem last_cut {xs ys xs' ys' : List Char} (hys : ':' ∉ ys) (hys' : ':' ∉ ys')
    (h : xs ++ ':' :: ys = xs' ++ ':' :: ys') : xs = xs' ∧ ys = ys' := by
  have hends := congrArg reverse h
  simp only [reverse_append, reverse_cons, append_assoc, singleton_append] at hends
  have hforeign : ∀ {zs : List Char}, ':' ∉ zs → ∀ c ∈ zs.reverse, c ≠ ':' :=
    fun hzs c hc hcolon => hzs (hcolon ▸ mem_reverse.mp hc)
  obtain ⟨hend, hfront⟩ := Printf.append_cut (· ≠ ':') (hforeign hys) (hforeign hys')
    (by simp) (by simp) hends
  exact ⟨reverse_injective (cons.inj hfront).2, reverse_injective hend⟩

theorem toString_no_colon (n : Int) : ':' ∉ (toString n).toList := fun h =>
  absurd (Text.toString_numerals n _ h) (by decide)

theorem toString_int_inj {m n : Int} (h : toString m = toString n) : m = n :=
  Option.some.inj ((Text.readInt?_toString m).symm.trans (h ▸ Text.readInt?_toString n))

theorem Source.key_inj {x y : Source} (h : x.key = y.key)
    (hx : ∀ f i w, x = .family f i w → ':' ∉ w.toList)
    (hy : ∀ f i w, y = .family f i w → ':' ∉ w.toList) : x = y := by
  have hlist := congrArg String.toList h
  cases x <;> cases y <;>
    simp only [key, kind, label, String.toList_append, append_assoc, append_cancel_left_eq] at hlist
  case family.family f i w f' i' w' =>
    have hsplit : (f.toList ++ ':' :: (toString i).toList) ++ ':' :: w.toList
        = (f'.toList ++ ':' :: (toString i').toList) ++ ':' :: w'.toList := by simpa using hlist
    obtain ⟨hfront, hweight⟩ := last_cut (hx f i w rfl) (hy f' i' w' rfl) hsplit
    obtain ⟨hfamily, hitalic⟩ := last_cut (toString_no_colon i) (toString_no_colon i') hfront
    rw [String.toList_injective hfamily, String.toList_injective hweight,
      toString_int_inj (String.toList_injective hitalic)]
  case web.web url url' => rw [String.toList_injective hlist]
  case file.file path path' => rw [String.toList_injective hlist]
  all_goals cases hlist

theorem weight_no_colon {n : Int} (h : intOf? w = some n) : ':' ∉ w.show.toList := by
  rcases intOf?_cases h with rfl | ⟨c, rfl, -⟩
  · exact toString_no_colon n
  · cases c <;> decide

theorem weight_inj {m n : Int} (hv : intOf? v = some m) (hw : intOf? w = some n)
    (h : v.show = w.show) : v = w := by
  -- no number is written like a truth value
  have hword : ∀ (n : Int) (c : Bool), (Value.int n).show ≠ (Value.bool c).show := by
    intro n c heq
    have hchars : ∀ d ∈ (Value.bool c).show.toList, d ∈ Text.numerals :=
      heq ▸ Text.toString_numerals n
    cases c <;> exact absurd (hchars 'e' (by decide)) (by decide)
  rcases intOf?_cases hv with rfl | ⟨c, rfl, -⟩ <;> rcases intOf?_cases hw with rfl | ⟨d, rfl, -⟩
  · rw [toString_int_inj h]
  · exact absurd h (hword _ _)
  · exact absurd h.symm (hword _ _)
  · cases c <;> cases d <;> first
      | rfl
      | exact absurd h (by decide)

theorem Tells.key_inj {o p : Origin} (ha : Tells a o) (hb : Tells b p)
    (h : o.source.key = p.source.key) : o = p := by
  have hcolon : ∀ {v o}, Tells v o → ∀ f i w, o.source = .family f i w → ':' ∉ w.toList := by
    intro v o hv
    cases o <;> rintro f i w ⟨⟩
    obtain ⟨-, -, -, -, n, hn⟩ := hv
    exact weight_no_colon hn
  have hsame := Source.key_inj h (hcolon ha) (hcolon hb)
  cases o <;> cases p <;> injection hsame
  case service.service italic weight _ italic' weight' hfamily hitalic hweight =>
    obtain ⟨-, -, -, -, m, hm⟩ := ha
    obtain ⟨-, -, -, -, n, hn⟩ := hb
    rw [hfamily, weight_inj hm hn hweight]
    cases italic <;> cases italic' <;> first
      | rfl
      | cases hitalic
  case address.address heq => rw [heq]
  case file.file heq => rw [heq]

/-! ## Accepted font files -/

/-- What a description is read as, in any session. -/
def Reads (v : Value) (src : Source) : Prop := ∀ s, (Source.ofValue v).on s = (.ok src, s)

theorem Reads.unique {x y : Source} (hx : Reads v x) (hy : Reads v y) : x = y := by
  cases (hx {}).symm.trans (hy {})
  rfl

theorem show_of_text? {text : String} (h : v.text? = some text) : v.show = text := by
  cases v <;> cases h <;> rfl

theorem Tells.reads {o : Origin} (h : Tells v o) : Reads v o.source := by
  intro s
  cases v with
  | dict es =>
    have hcontains : ∀ key, contains (.dict es) key = pure ((Value.dict es).get? key).isSome :=
      fun key => congrArg pure (Entries.has_eq_isSome es key)
    unfold Source.ofValue
    rw [hcontains, hcontains]
    cases o with
    | service family italic weight =>
      obtain ⟨-, hfamily, hitalic, hweight, -⟩ := h
      obtain ⟨f, hf, htext⟩ := Option.bind_eq_some_iff.mp hfamily
      obtain rfl := show_of_text? htext
      simp only [hf, required_eq hf, required_eq hitalic, required_eq hweight, pure_bind]
      cases italic <;> rfl
    | address url =>
      obtain ⟨-, hfamily, hurl⟩ := h
      obtain ⟨u, hu, htext⟩ := Option.bind_eq_some_iff.mp hurl
      obtain rfl := show_of_text? htext
      simp only [hfamily, hu, required_eq hu, pure_bind]
      rfl
    | file path =>
      obtain ⟨-, hfamily, hurl, hpath⟩ := h
      simp only [hfamily, hurl, required_eq hpath, pure_bind]
      rfl
  | _ =>
    cases o <;> exact absurd h.1 (by simp [Value.get?])

/-- Loading a font leaves its description as it is. -/
theorem stage_same {stage : Test} (h : stage ∈ [addLocal, fetchFamily, fetchWeb]) (v : Value) :
    (stage v).Yields (· = v) := by
  simp only [mem_cons, not_mem_nil, or_false] at h
  rcases h with rfl | rfl | rfl
  all_goals
    simp only [addLocal, fetchFamily, fetchWeb, refuse_bind]
    repeat' first
      | with_reducible refine .bind fun _ => ?_
      | split
    all_goals first
      | with_reducible exact .of_pure rfl
      | exact .of_throw _

theorem strictText_gives (h : strictText.Gives v) : v.text? = some v.show := by
  obtain ⟨x, s, t, h⟩ := h
  obtain ⟨_, u, -, h⟩ := on_bind_eq_ok h
  split at h
  · next htext =>
      cases h
      obtain ⟨text, hv⟩ := Option.isSome_iff_exists.mp htext
      rw [hv, show_of_text? hv]
  · cases h

theorem fontFile_gives (h : fontFile.Gives w) : ∃ path, w = .str path := by
  obtain ⟨x, s, t, h⟩ := h
  unfold fontFile at h
  split at h
  · cases h
  · simp only [refuse_bind] at h
    split at h
    · cases h
    · split at h
      · cases h
      · obtain ⟨_, u, -, h⟩ := on_bind_eq_ok h
        cases h
        exact ⟨_, rfl⟩

theorem weight_gives (h : (anyOf [integer, weightName]).Gives w) : ∃ n, intOf? w = some n := by
  obtain ⟨x, s, t, h⟩ := h
  have hyields : (anyOfFrom none [integer, weightName] x).Yields fun w => ∃ n, intOf? w = some n := by
    refine Property.anyOfFrom_yields _ (fun test htest => ?_) none
    rcases mem_pair.mp htest with rfl | rfl
    · exact integer_whole x
    · refine .bind fun name => ?_
      split
      · exact .of_pure ⟨_, rfl⟩
      · exact .of_throw _
  exact hyields s t w h

theorem typed_eq_ok {key : String} {cases : List (String × Test)}
    (h : (typed key cases {} none v).on s = (.ok w, t)) : ∃ c ∈ cases, ∃ es, ∃ done : Entries, ∃ u,
      (c.2 (.dict es)).on u = (.ok (.dict done), t) ∧ w = .dict (done.put key (.str c.1)) := by
  cases v with
  | dict es =>
    unfold typed at h
    dsimp only at h
    split at h
    · cases h
    · cases h
    · rw [if_neg (by decide)] at h
      obtain ⟨word, u, -, h⟩ := on_bind_eq_ok h
      split at h
      · cases h
      · next name test hfind =>
        obtain ⟨done, u', hdone, h⟩ := on_bind_eq_ok h
        cases done with
        | dict done =>
          cases h
          have hname : name = word := by simpa using find?_some hfind
          exact ⟨_, mem_of_find?_eq_some hfind, _, done, _, hdone, by rw [hname]⟩
        | _ => cases h
  | _ => cases h

theorem loaded_accepted {r : Record} {stage : Test} (hextras : r.extras = [])
    (hsame : ∀ v, (stage v).Yields (· = v))
    (h : (allOf [r.run, stage] v).on s = (.ok (.dict es), t)) : ∃ written, r.Accepted written es := by
  obtain ⟨w, u, hrun, hloaded⟩ := allOf_pair_iff.mp h
  obtain ⟨written, done, -, rfl, haccepted⟩ := run_accepted (hextras ▸ forall_mem_nil _) hrun
  cases hsame _ u t _ hloaded
  exact ⟨written, haccepted⟩

theorem described_tells (h : (described v).on s = (.ok w, t)) : ∃ o, Tells w o := by
  obtain ⟨c, hc, given, es, u, hcase, rfl⟩ := typed_eq_ok h
  have hget : ∀ key ≠ "type",
      (Value.dict (es.put "type" (.str c.1))).get? key = Entries.get? es key :=
    fun key hkey => Entries.get?_put_ne es _ hkey
  have htype : (Value.dict (es.put "type" (.str c.1))).get? "type" = some (.str c.1) :=
    Entries.get?_put_self es _ _
  have habsent : ∀ {r written key}, Record.Accepted r written es → r.field? key = none →
      Entries.get? es key = none := fun hr hkey =>
    Entries.get?_eq_none_of_forall fun e he heq => by
      obtain ⟨f, hf, -⟩ := hr.fits e he
      rw [heq, hkey] at hf
      cases hf
  simp only [mem_cons, not_mem_nil, or_false] at hc
  rcases hc with rfl | rfl | rfl
  · obtain ⟨_, hr⟩ := loaded_accepted rfl (stage_same (by simp)) hcase
    obtain ⟨path, hpath, hgives⟩ := hr.there (f := .required "path" fontFile) rfl (.inr rfl)
    obtain ⟨path, rfl⟩ := fontFile_gives hgives
    refine ⟨.file path, htype, ?_⟩
    rw [hget, hget, hget, habsent hr rfl, habsent hr rfl]
    exact ⟨rfl, rfl, hpath⟩
    all_goals decide
  · obtain ⟨_, hr⟩ := loaded_accepted rfl (stage_same (by simp)) hcase
    obtain ⟨f, hf, hgives⟩ := hr.there (f := .required "family" strictText) rfl (.inr rfl)
    obtain ⟨i, hi, hslant⟩ :=
      hr.there (f := .defaulted "italic" (.bool false) boolean) rfl (.inl rfl)
    obtain ⟨italic, rfl⟩ := Style.truth_gives hslant
    obtain ⟨weight, hweight, hwhole⟩ := hr.there
      (f := .defaulted "weight" (.str "regular") (anyOf [integer, weightName])) rfl
      (.inl rfl)
    refine ⟨.service f.show italic weight, htype, ?_⟩
    rw [hget, hget, hget, show Entries.get? es "family" = some f from hf]
    exact ⟨strictText_gives hgives, hi, hweight, weight_gives hwhole⟩
    all_goals decide
  · obtain ⟨_, hr⟩ := loaded_accepted rfl (stage_same (by simp)) hcase
    obtain ⟨url, hurl, hgives⟩ := hr.there (f := .required "url" strictText) rfl (.inr rfl)
    refine ⟨.address url.show, htype, ?_⟩
    rw [hget, hget, habsent hr rfl, show Entries.get? es "url" = some url from hurl]
    exact ⟨rfl, strictText_gives hgives⟩
    all_goals decide

/-- A short form is a description that is spelled out. -/
theorem source_tells (h : source.Gives w) : ∃ o, Tells w o := by
  obtain ⟨v, s, t, h⟩ := h
  unfold source at h
  split at h
  · unfold shorthand at h
    obtain ⟨text, u, -, h⟩ := on_bind_eq_ok h
    dsimp only at h
    repeat' split at h
    · cases h
    all_goals exact described_tells h
  · exact described_tells h

/-- Two accepted font files have one key in the cache exactly when they are of one kind and agree in
    all that tells a font: family, slant and weight, address, or path. -/
theorem source_keys (ha : source.Gives a) (hb : source.Gives b) : ∃ x y, Reads a x ∧ Reads b y
    ∧ (x.key = y.key ↔ ∃ o, Tells a o ∧ Tells b o) := by
  obtain ⟨o, ho⟩ := source_tells ha
  obtain ⟨p, hp⟩ := source_tells hb
  refine ⟨_, _, ho.reads, hp.reads, fun h => ⟨o, ho, ho.key_inj hp h ▸ hp⟩, ?_⟩
  rintro ⟨q, hq, hq'⟩
  rw [ho.reads.unique hq.reads, hp.reads.unique hq'.reads]

theorem source_keys_cased : source.Gives (foundFile "bdf") ∧ source.Gives (foundFile "BDF")
    ∧ ∃ x y, Reads (foundFile "bdf") x ∧ Reads (foundFile "BDF") y
      ∧ (x.key = y.key ↔ ∃ o, Tells (foundFile "bdf") o ∧ Tells (foundFile "BDF") o) :=
  have hsmall : source.Gives (foundFile "bdf") := ⟨givenFile "bdf", sampleSession, _, rfl⟩
  have hlarge : source.Gives (foundFile "BDF") := ⟨givenFile "BDF", sampleSession, _, rfl⟩
  ⟨hsmall, hlarge, source_keys hsmall hlarge⟩

end Font

end Panel
