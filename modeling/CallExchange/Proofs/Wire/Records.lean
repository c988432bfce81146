import CallExchange.Proofs.Wire.Values

/-!
# Records are read back

Each record that is exchanged as text is read back from its own data. A record with free-form data is
so if the data can be held by a member, and data that was read from a tree can be. All integers that
a record writes fit 64 bits, so its text is read as its tree.

## Main results

* `ofNode?_toJson` of each record — it is read back from its data
* `fits_toJson` of each record — its data has no other integers than those of 64 bits
* `storable_metadata` of the records with free-form data — what was read can be held
-/

namespace CallExchange

open Node

/-! ### Calls -/

namespace InboundCall

theorem ofNode?_toJson (c : InboundCall) : ofNode? c.toJson.toNode = some c := by
  have found : fields memberNames c.toJson.toNode = some (named _) :=
    fields_object ((known_list _).append known_unlessAbsent) rfl (by decide)
  rw [ofNode?, found]
  simp [required_named, optional_named, List.lookup_cons, Json.lookup_unlessAbsent]

theorem fits_toJson (c : InboundCall) : c.toJson.Fits := by simp [toJson]

end InboundCall

namespace CallAnswer

theorem ofNode?_toJson (a : CallAnswer) : ofNode? a.toJson.toNode = some a := by
  have found : fields memberNames a.toJson.toNode = some (named _) :=
    fields_object ((known_list _).append known_unlessAbsent) rfl (by decide)
  rw [ofNode?, found]
  simp [required_named, optional_named, List.lookup_cons, Json.lookup_unlessAbsent]

theorem fits_toJson (a : CallAnswer) : a.toJson.Fits := by simp [toJson]

end CallAnswer

namespace Override

variable {o : Override} {n : Node}

theorem ofNode?_toJson (storable : ∀ j ∈ o.metadata, j.Storable) :
    ofNode? o.toJson.toNode = some o := by
  have found : fields memberNames o.toJson.toNode = some (named _) :=
    fields_object ((known_list _).append known_unlessAbsent) rfl (by decide)
  rw [ofNode?, found]
  simp [required_named, optional_named, List.lookup_cons, Json.lookup_unlessAbsent,
    optionalOf_data storable]

theorem fits_toJson (storable : ∀ j ∈ o.metadata, j.Storable) : o.toJson.Fits := by
  simpa [toJson] using Json.fit_of_storable storable

theorem storable_metadata (fits : n.Fits) (read : ofNode? n = some o) :
    ∀ j ∈ o.metadata, j.Storable := by
  -- all the other members are of no account here
  obtain ⟨fs, found, read⟩ := Option.bind_eq_some_iff.mp read
  simp only [Option.bind_eq_bind, Option.bind_eq_some_iff, Option.pure_def,
    Option.some.injEq] at read
  obtain ⟨_, -, _, -, _, -, _, -, _, -, metadata, data, rfl⟩ := read
  exact storable_of_optional (fit_of_fields fits found) data

end Override

/-! ### Campaigns -/

namespace Destination

theorem ofNode?_toJson (d : Destination) : ofNode? d.toJson.toNode = some d := by
  have found : fields memberNames d.toJson.toNode = some (named _) :=
    fields_object (known_list _) rfl (by decide)
  rw [ofNode?, found]
  simp [required_named, List.lookup_cons]

theorem fits_toJson (d : Destination) : d.toJson.Fits := by simp [toJson]

end Destination

namespace Evaluation

theorem ofNode?_toJson (e : Evaluation) : ofNode? e.toJson.toNode = some e := by
  have found : fields memberNames e.toJson.toNode = some (named _) :=
    fields_object (known_list _) rfl (by decide)
  rw [ofNode?, found]
  simp [required_named, optional_named, defaulted_named, List.lookup_cons,
    toList_ofList Destination.ofNode?_toJson]

theorem fits_toJson (e : Evaluation) : e.toJson.Fits := by
  have destinations : (Json.ofList Destination.toJson e.destinations).Fits :=
    Json.fits_array.mpr (by simp [Destination.fits_toJson])
  simp [toJson, destinations]

end Evaluation

/-! ### Wallets -/

namespace Wallet

theorem ofNode?_toJson (w : Wallet) : ofNode? w.toJson.toNode = some w := by
  have found : fields memberNames w.toJson.toNode = some (named _) :=
    fields_object (known_list _) rfl (by decide)
  rw [ofNode?, found]
  simp [required_named, List.lookup_cons]

theorem fits_toJson (w : Wallet) : w.toJson.Fits := by simp [toJson]

end Wallet

namespace Balance

theorem ofNode?_toJson (b : Balance) : ofNode? b.toJson.toNode = some b := by
  have found : fields memberNames b.toJson.toNode = some (named _) :=
    fields_object (known_list _) rfl (by decide)
  rw [ofNode?, found]
  simp [required_named, List.lookup_cons]

theorem fits_toJson (b : Balance) : b.toJson.Fits := by simp [toJson]

end Balance

namespace Entry

variable {e : Entry} {n : Node}

theorem ofNode?_toJson (storable : ∀ j ∈ e.metadata, j.Storable) :
    ofNode? e.toJson.toNode = some e := by
  have found : fields memberNames e.toJson.toNode = some (named _) :=
    fields_object (((((known_list _).append known_unlessAbsent).append (known_list _)).append
      known_unlessAbsent).append (known_list _)) rfl (by decide)
  rw [ofNode?, found]
  simp [required_named, optional_named, List.lookup_cons, List.lookup_append, Json.lookup_unlessAbsent,
    optionalOf_data storable]

theorem fits_toJson (storable : ∀ j ∈ e.metadata, j.Storable) : e.toJson.Fits := by
  simpa [toJson] using Json.fit_of_storable storable

theorem storable_metadata (fits : n.Fits) (read : ofNode? n = some e) :
    ∀ j ∈ e.metadata, j.Storable := by
  obtain ⟨fs, found, read⟩ := Option.bind_eq_some_iff.mp read
  simp only [Option.bind_eq_bind, Option.bind_eq_some_iff, Option.pure_def,
    Option.some.injEq] at read
  obtain ⟨_, -, _, -, _, -, _, -, _, -, _, -, _, -, _, -, metadata, data, _, -, rfl⟩ := read
  exact storable_of_optional (fit_of_fields fits found) data

end Entry

namespace AdminAction

variable {a : AdminAction} {n : Node}

theorem ofNode?_toJson (storable : ∀ j ∈ a.metadata, j.Storable) :
    ofNode? a.toJson.toNode = some a := by
  have found : fields memberNames a.toJson.toNode = some (named _) :=
    fields_object ((((((known_list _).append known_unlessAbsent).append known_unlessAbsent).append
      known_unlessAbsent).append known_unlessAbsent).append (known_list _)) rfl (by decide)
  rw [ofNode?, found]
  simp [required_named, optional_named, List.lookup_cons, List.lookup_append, Json.lookup_unlessAbsent,
    optionalOf_data storable]

theorem fits_toJson (storable : ∀ j ∈ a.metadata, j.Storable) : a.toJson.Fits := by
  simpa [toJson] using Json.fit_of_storable storable

theorem storable_metadata (fits : n.Fits) (read : ofNode? n = some a) :
    ∀ j ∈ a.metadata, j.Storable := by
  obtain ⟨fs, found, read⟩ := Option.bind_eq_some_iff.mp read
  simp only [Option.bind_eq_bind, Option.bind_eq_some_iff, Option.pure_def,
    Option.some.injEq] at read
  obtain ⟨_, -, _, -, _, -, _, -, _, -, _, -, _, -, _, -, _, -, _, -, metadata, data, _, -, rfl⟩ :=
    read
  exact storable_of_optional (fit_of_fields fits found) data

end AdminAction

namespace PostingRequest

variable {r : PostingRequest} {n : Node}

theorem ofNode?_toJson (storable : ∀ j ∈ r.metadata, j.Storable) :
    ofNode? r.toJson.toNode = some r := by
  have found : fields memberNames r.toJson.toNode = some (named _) :=
    fields_object ((((known_list _).append known_unlessAbsent).append (known_list _)).append
      known_unlessAbsent) rfl (by decide)
  rw [ofNode?, found]
  simp [required_named, optional_named, List.lookup_cons, List.lookup_append, Json.lookup_unlessAbsent,
    optionalOf_data storable]

theorem fits_toJson (storable : ∀ j ∈ r.metadata, j.Storable) : r.toJson.Fits := by
  simpa [toJson] using Json.fit_of_storable storable

theorem storable_metadata (fits : n.Fits) (read : ofNode? n = some r) :
    ∀ j ∈ r.metadata, j.Storable := by
  obtain ⟨fs, found, read⟩ := Option.bind_eq_some_iff.mp read
  simp only [Option.bind_eq_bind, Option.bind_eq_some_iff, Option.pure_def,
    Option.some.injEq] at read
  obtain ⟨_, -, _, -, _, -, _, -, metadata, data, rfl⟩ := read
  exact storable_of_optional (fit_of_fields fits found) data

end PostingRequest

namespace AdminCreditRequest

variable {r : AdminCreditRequest} {n : Node}

theorem ofNode?_toJson (storable : ∀ j ∈ r.metadata, j.Storable) :
    ofNode? r.toJson.toNode = some r := by
  have found : fields memberNames r.toJson.toNode = some (named _) :=
    fields_object ((known_list _).append known_unlessAbsent) rfl (by decide)
  rw [ofNode?, found]
  simp [required_named, optional_named, List.lookup_cons, Json.lookup_unlessAbsent,
    optionalOf_data storable]

theorem fits_toJson (storable : ∀ j ∈ r.metadata, j.Storable) : r.toJson.Fits := by
  simpa [toJson] using Json.fit_of_storable storable

theorem storable_metadata (fits : n.Fits) (read : ofNode? n = some r) :
    ∀ j ∈ r.metadata, j.Storable := by
  obtain ⟨fs, found, read⟩ := Option.bind_eq_some_iff.mp read
  simp only [Option.bind_eq_bind, Option.bind_eq_some_iff, Option.pure_def,
    Option.some.injEq] at read
  obtain ⟨_, -, _, -, _, -, _, -, metadata, data, rfl⟩ := read
  exact storable_of_optional (fit_of_fields fits found) data

end AdminCreditRequest

end CallExchange
