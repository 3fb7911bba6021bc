/-
# The supported operating systems

A fixed table (`OsEntry`, `lookup`): which license an imported disk gets and which translation workflow
prepares the guest, by the identifier of the operating system.  Bring-your-own-license variants are entries of
their own, under the identifier with `-byol` at its end (`byol_variant`).  What inspection found is brought to
an identifier by `candidate_id`.
-/
import ImageImport.Text.Basic
import ImageImport.Platform.Inspection

namespace ImageImport.Os

/-- One supported operating system. -/
structure Entry where
  id : String
  license : String
  workflow : String
  deriving DecidableEq

/-- The license of a project. -/
def license (project name : String) : String := "projects/" ++ project ++ "/global/licenses/" ++ name

/-- The table. -/
def registry : List Entry := [
  ⟨"centos-7", license "centos-cloud" "centos-7",
    "enterprise_linux/translate_centos_7.wf.json"⟩,
  ⟨"centos-8", license "centos-cloud" "centos-8",
    "enterprise_linux/translate_centos_8.wf.json"⟩,
  ⟨"debian-9", license "debian-cloud" "debian-9-stretch",
    "debian/translate_debian_9.wf.json"⟩,
  ⟨"debian-10", license "debian-cloud" "debian-10-buster",
    "debian/translate_debian_10.wf.json"⟩,
  ⟨"debian-11", license "debian-cloud" "debian-11-bullseye",
    "debian/translate_debian_11.wf.json"⟩,
  ⟨"debian-12", license "debian-cloud" "debian-12-bookworm",
    "debian/translate_debian_12.wf.json"⟩,
  ⟨"opensuse-15", license "opensuse-cloud" "opensuse-leap",
    "suse/translate_opensuse_15.wf.json"⟩,
  ⟨"rhel-7", license "rhel-cloud" "rhel-7-server",
    "enterprise_linux/translate_rhel_7_licensed.wf.json"⟩,
  ⟨"rhel-7-byol", license "rhel-cloud" "rhel-7-byos",
    "enterprise_linux/translate_rhel_7_byol.wf.json"⟩,
  ⟨"rhel-8", license "rhel-cloud" "rhel-8-server",
    "enterprise_linux/translate_rhel_8_licensed.wf.json"⟩,
  ⟨"rhel-8-byol", license "rhel-cloud" "rhel-8-byos",
    "enterprise_linux/translate_rhel_8_byol.wf.json"⟩,
  ⟨"sles-12", license "suse-cloud" "sles-12",
    "suse/translate_sles_12.wf.json"⟩,
  ⟨"sles-12-byol", license "suse-byos-cloud" "sles-12-byos",
    "suse/translate_sles_12_byol.wf.json"⟩,
  ⟨"sles-15", license "suse-cloud" "sles-15",
    "suse/translate_sles_15.wf.json"⟩,
  ⟨"sles-15-byol", license "suse-byos-cloud" "sles-15-byos",
    "suse/translate_sles_15_byol.wf.json"⟩,
  ⟨"sles-sap-12", license "suse-sap-cloud" "sles-sap-12",
    "suse/translate_sles_sap_12.wf.json"⟩,
  ⟨"sles-sap-12-byol", license "suse-byos-cloud" "sles-sap-12-byos",
    "suse/translate_sles_sap_12_byol.wf.json"⟩,
  ⟨"sles-sap-15", license "suse-sap-cloud" "sles-sap-15",
    "suse/translate_sles_sap_15.wf.json"⟩,
  ⟨"sles-sap-15-byol", license "suse-byos-cloud" "sles-sap-15-byos",
    "suse/translate_sles_sap_15_byol.wf.json"⟩,
  ⟨"ubuntu-1804", license "ubuntu-os-cloud" "ubuntu-1804-lts",
    "ubuntu/translate_ubuntu_1804.wf.json"⟩,
  ⟨"ubuntu-2004", license "ubuntu-os-cloud" "ubuntu-2004-lts",
    "ubuntu/translate_ubuntu_2004.wf.json"⟩,
  ⟨"ubuntu-2204", license "ubuntu-os-cloud" "ubuntu-2204-lts",
    "ubuntu/translate_ubuntu_2204.wf.json"⟩,
  ⟨"windows-2012r2", license "windows-cloud" "windows-server-2012-r2-dc",
    "windows/translate_windows_2012_r2.wf.json"⟩,
  ⟨"windows-2016", license "windows-cloud" "windows-server-2016-dc",
    "windows/translate_windows_2016.wf.json"⟩,
  ⟨"windows-2019", license "windows-cloud" "windows-server-2019-dc",
    "windows/translate_windows_2019.wf.json"⟩,
  ⟨"windows-2022", license "windows-cloud" "windows-server-2022-dc",
    "windows/translate_windows_2022.wf.json"⟩,
  ⟨"windows-10-x64-byol", license "windows-cloud" "windows-10-x64-byol",
    "windows/translate_windows_10_x64_byol.wf.json"⟩,
  ⟨"windows-11-x64-byol", license "windows-cloud" "windows-11-x64-byol",
    "windows/translate_windows_11_x64_byol.wf.json"⟩
]

/-- The entry of an identifier. -/
def lookup (id : String) : Option Entry := registry.find? fun e => e.id == id

/-- The end of the identifiers of bring-your-own-license variants. -/
def byolSuffix : String := "-byol"

/-- The identifier of the bring-your-own-license variant. -/
def byolVariant (id : String) : String := if Text.endsWith id byolSuffix then id else id ++ byolSuffix

/-- Every identifier, in order. -/
def allowedIds : List String := (registry.map (·.id)).mergeSort fun a b => decide (a ≤ b)

/-- Every identifier, for messages. -/
def allowedValues : String := ", ".intercalate allowedIds

/-- A Windows system, by its identifier. -/
def isWindows (id : String) : Bool := Text.startsWith id "windows"

/-- **The identifier an inspected release would have**, supported or not; none when the inspector
did not name a distribution and a major version. -/
def candidateId (r : OsRelease) : Option String :=
  let distro := Text.lowerAscii (Text.trim r.distro)
  let major := Text.trim r.majorVersion
  if distro.isEmpty || major.isEmpty then none
  else some <|
    if distro = "ubuntu" then "ubuntu-" ++ major ++ Text.trim r.minorVersion
    else if distro = "sles_sap" ∨ distro = "sles-sap" then "sles-sap-" ++ major
    else if distro = "redhat" ∨ distro = "rhel" then "rhel-" ++ major
    else if distro = "opensuse-leap" ∨ distro = "opensuse" then "opensuse-" ++ major
    else distro ++ "-" ++ major

/-- The identifier of an inspected release, if it is supported. -/
def registeredId (r : OsRelease) : Option String :=
  (candidateId r).bind fun id => (lookup id).map (·.id)

end ImageImport.Os
