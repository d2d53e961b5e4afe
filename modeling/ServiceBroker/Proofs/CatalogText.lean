import ServiceBroker.Catalog.Text
import ServiceBroker.Proofs.Records

/-!
Catalog text has a normal form: the compact text of a decoded catalog decodes to the same catalog,
and so is written again as it stands. Whatever the first text left out, repeated or gave beside is
settled by then. Catalogs with real numbers are set aside.
-/

namespace ServiceBroker

open Json

/-! ### Catalogs of integers -/

def Dict.integral (d : Dict Value) : Bool := d.entries.all (·.2.integral)

def ExtensionSpec.integral (spec : ExtensionSpec) : Bool := spec.args.integral

def Application.integral (app : Application) : Bool :=
  app.environment.integral && app.transformers.all (·.integral) &&
    app.credentialProviders.all (·.integral)

def Service.integral (service : Service) : Bool :=
  service.parameters.integral && service.transformers.all (·.integral)

def CatalogEntry.integral (entry : CatalogEntry) : Bool :=
  entry.applications.all (·.integral) && entry.services.all (·.integral) &&
    entry.target.all (·.integral)

/-- All numbers in arguments, environments and parameters are integers. The rest of a catalog is
text. -/
def Catalog.integral (catalog : Catalog) : Bool := catalog.entries.all (·.integral)

theorem all_true {α : Type} (xs : List α) : (xs.all fun _ => true) = true := by simp

theorem ExtensionSpec.integral_toValue (spec : ExtensionSpec) :
    (codec.toValue spec).integral = spec.integral := by
  simp [codec, integral, Field.required, Field.defaulted, Field.make, Dict.integral]

theorem Application.integral_toValue (app : Application) :
    (codec.toValue app).integral = app.integral := by
  simp [codec, serviceCodec, integral, Field.required, Field.defaulted, Field.make, Dict.integral,
    ExtensionSpec.integral_toValue, all_true, Bool.and_assoc]

theorem Service.integral_toValue (service : Service) :
    (codec.toValue service).integral = service.integral := by
  simp [codec, integral, Field.required, Field.defaulted, Field.make, Dict.integral,
    ExtensionSpec.integral_toValue, all_true]

theorem CatalogEntry.integral_toValue (entry : CatalogEntry) :
    (codec.toValue entry).integral = entry.integral := by
  simp [codec, integral, Field.required, Field.defaulted, Field.make,
    Application.integral_toValue, Service.integral_toValue, ExtensionSpec.integral_toValue,
    Bool.and_assoc]

theorem Catalog.integral_toValue (catalog : Catalog) :
    (entriesCodec.toValue catalog.entries).integral = catalog.integral := by
  simp [entriesCodec, integral, CatalogEntry.integral_toValue]

/-! ### Stable codecs

Each record needs one level more than the deepest of its fields. All together they need far less
than a text may nest, so what a text leaves out can always be written.
-/

theorem ExtensionSpec.codec_stable : codec.Stable 2 := by
  refine .record "ExtensionSpec" [⟨_, _, .text, _, _⟩, ⟨_, _, .dict .any, _, _⟩]
    ⟨by decide, by simp [Part.Apart], by simp, fun _ => rfl⟩ ?_
  simp only [List.forall_mem_cons]
  exact ⟨Part.fits_text _ _ _ _ _ _, Part.fits_dict Codec.any_stable (by decide) rfl, by simp⟩

theorem Application.serviceCodec_stable : serviceCodec.Stable 1 := by
  refine .record "ServicesSpec" [⟨_, _, .text, _, _⟩]
    ⟨by decide, by simp, by simp, fun _ => rfl⟩ ?_
  simp only [List.forall_mem_cons]
  exact ⟨Part.fits_text _ _ _ _ _ _, by simp⟩

theorem Application.codec_stable : codec.Stable 4 := by
  refine .record "BackingApplication"
    [⟨_, _, .text, _, _⟩, ⟨_, _, .text, _, _⟩, ⟨_, _, .dict .text, _, _⟩, ⟨_, _, .dict .any, _, _⟩,
     ⟨_, _, .list ExtensionSpec.codec, _, _⟩, ⟨_, _, .list ExtensionSpec.codec, _, _⟩,
     ⟨_, _, .list serviceCodec, _, _⟩]
    ⟨by decide, by simp [Part.Apart], by simp, fun _ => rfl⟩ ?_
  simp only [List.forall_mem_cons]
  exact ⟨Part.fits_text _ _ _ _ _ _, Part.fits_text _ _ _ _ _ _,
    Part.fits_dict Codec.text_stable (by decide) rfl,
    Part.fits_dict Codec.any_stable (by decide) rfl,
    Part.fits_list ExtensionSpec.codec_stable (by decide) rfl,
    Part.fits_list ExtensionSpec.codec_stable (by decide) rfl,
    Part.fits_list serviceCodec_stable (by decide) rfl, by simp⟩

theorem Service.codec_stable : codec.Stable 4 := by
  refine .record "BackingService"
    [⟨_, _, .text, _, _⟩, ⟨_, _, .text, _, _⟩, ⟨_, _, .text, _, _⟩, ⟨_, _, .dict .any, _, _⟩,
     ⟨_, _, .dict .text, _, _⟩, ⟨_, _, .list ExtensionSpec.codec, _, _⟩]
    ⟨by decide, by simp [Part.Apart], by simp, fun _ => rfl⟩ ?_
  simp only [List.forall_mem_cons]
  exact ⟨Part.fits_text _ _ _ _ _ _, Part.fits_text _ _ _ _ _ _, Part.fits_text _ _ _ _ _ _,
    Part.fits_dict Codec.any_stable (by decide) rfl,
    Part.fits_dict Codec.text_stable (by decide) rfl,
    Part.fits_list ExtensionSpec.codec_stable (by decide) rfl, by simp⟩

theorem CatalogEntry.codec_stable : codec.Stable 6 := by
  refine .record "BrokeredService"
    [⟨_, _, .text, _, _⟩, ⟨_, _, .text, _, _⟩, ⟨_, _, .list Application.codec, _, _⟩,
     ⟨_, _, .list Service.codec, _, _⟩, ⟨_, _, .option ExtensionSpec.codec, _, _⟩]
    ⟨by decide, by simp [Part.Apart], by simp, fun _ => rfl⟩ ?_
  have hnull : ∀ spec, ExtensionSpec.codec.toValue spec ≠ .null := fun _ h => nomatch h
  simp only [List.forall_mem_cons]
  exact ⟨Part.fits_text _ _ _ _ _ _, Part.fits_text _ _ _ _ _ _,
    Part.fits_list Application.codec_stable (by decide) rfl,
    Part.fits_list Service.codec_stable (by decide) rfl,
    Part.fits_option ExtensionSpec.codec_stable (by decide) hnull rfl, by simp⟩

namespace Catalog

theorem entriesCodec_stable : entriesCodec.Stable 7 := CatalogEntry.codec_stable.list

/-- The text of a decoded catalog decodes to that catalog, so it is the text written for it
again. -/
theorem encode_is_normal_form {text : String} {catalog : Catalog} (h : decode text = .ok catalog)
    (hintegral : catalog.integral) :
    decode catalog.encode = .ok catalog ∧
      (decode catalog.encode).map encode = .ok catalog.encode := by
  have hagain : decode catalog.encode = .ok catalog := by
    unfold decode at h
    cases hentries : entriesCodec.decode text with
    | error fault =>
      rw [hentries] at h
      cases h
    | ok entries =>
      rw [hentries] at h
      cases h
      have hvalue := (integral_toValue ⟨entries⟩).trans hintegral
      rw [decode, encode, entriesCodec_stable.decode_encode (by decide) hentries hvalue]
      rfl
  exact ⟨hagain, by rw [hagain]; rfl⟩

/-- A text with an entry given as an array, left off early, and one with an unknown member and an
argument given twice. -/
theorem encode_is_normal_form_staged :
    let text :=
      "[[\"db\",\"small\"]," ++
        "\x7b\"planName\":\"large\",\"notes\":[1.5],\"serviceName\":\"db\"," ++
        "\"target\":\x7b\"name\":\"t\",\"args\":\x7b\"k\":\"\\u0041\",\"k\":-3\x7d\x7d\x7d]"
    let normal :=
      "[\x7b\"serviceName\":\"db\",\"planName\":\"small\"," ++
        "\"apps\":[],\"services\":[],\"target\":null\x7d," ++
        "\x7b\"serviceName\":\"db\",\"planName\":\"large\"," ++
        "\"apps\":[],\"services\":[]," ++
        "\"target\":\x7b\"name\":\"t\",\"args\":\x7b\"k\":-3\x7d\x7d\x7d]"
    ∃ catalog, decode text = .ok catalog ∧ catalog.integral ∧ catalog.encode = normal ∧
      decode normal = .ok catalog ∧ (decode normal).map encode = .ok normal := by
  intro text normal
  have hstart : (decode text).toOption.any (fun c => c.integral && c.encode == normal) = true := by
    simp only [text, normal]
    decide +kernel
  cases hdecode : decode text with
  | error fault =>
    rw [hdecode] at hstart
    cases hstart
  | ok catalog =>
    rw [hdecode] at hstart
    obtain ⟨hintegral, hnormal⟩ := Bool.and_eq_true_iff.mp hstart
    have hencode : catalog.encode = normal := eq_of_beq hnormal
    exact ⟨catalog, rfl, hintegral, hencode, hencode ▸ encode_is_normal_form hdecode hintegral⟩

end Catalog

end ServiceBroker
