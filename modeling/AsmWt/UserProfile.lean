import AsmWt.Firestore

/-!
# The profile fields a worker's operation stamps on a task

`onAcceptPressed` and `clockInProcess` send the same thirteen fields of the
signed-in user next to their own data. A user model that was never loaded sends
thirteen nulls.
-/

namespace UserProfile

open KeyedRecord Firestore

/-- The fields of `UserModel` that reach a task document. -/
structure UserModel where
  siteTH : Option String := none
  siteEN : Option String := none
  sectionCode : Option String := none
  sectionTH : Option String := none
  sectionEN : Option String := none
  jobCode : Option String := none
  siteCode : Option String := none
  jobTH : Option String := none
  jobEN : Option String := none
  firstnameTH : Option String := none
  firstnameEN : Option String := none
  lastnameTH : Option String := none
  lastnameEN : Option String := none

def profileKeys : List String :=
  ["site_th", "site_en", "section_code", "section_th", "section_en", "job_code", "site_code",
    "job_th", "job_en", "firstname_th", "firstname_en", "lastname_th", "lastname_en"]

/-- The entries `"site_th": conUser?.userModel?.siteTH, ...` of both writers. -/
def profileFields (userModel : Option UserModel) : Payload :=
  let field (get : UserModel → Option String) : Value :=
    Codec.string.encode (userModel.bind get)
  [("site_th", field (·.siteTH)),
    ("site_en", field (·.siteEN)),
    ("section_code", field (·.sectionCode)),
    ("section_th", field (·.sectionTH)),
    ("section_en", field (·.sectionEN)),
    ("job_code", field (·.jobCode)),
    ("site_code", field (·.siteCode)),
    ("job_th", field (·.jobTH)),
    ("job_en", field (·.jobEN)),
    ("firstname_th", field (·.firstnameTH)),
    ("firstname_en", field (·.firstnameEN)),
    ("lastname_th", field (·.lastnameTH)),
    ("lastname_en", field (·.lastnameEN))]

@[simp] theorem keys_profileFields (userModel : Option UserModel) :
    keys (profileFields userModel) = profileKeys := rfl

end UserProfile
