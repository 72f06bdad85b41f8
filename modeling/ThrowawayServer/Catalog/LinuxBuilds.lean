import ThrowawayServer.Catalog.Rule

/-!
# Linux builds

The builds for particular distributions, each with the release tags it serves and the ranges of
releases that are published under its key, and after them the builds for any Linux. A newer release
of a distribution takes the packages of an older one for releases published before its own packages
existed; those entries come after the native ones.
-/

set_option autoImplicit false

namespace ThrowawayServer.Catalog

/-- A range of numbered releases. -/
def window (min max : NumericVersion) : VersionRange := ⟨min, max⟩

/-- A range without an upper end, the rolling build included. -/
def windowFrom (min : NumericVersion) : VersionRange := ⟨min, .latest⟩

/-- The template of a published package: its file name is the product, the label and the version, and
the archive is a zip file on Windows and a tarball elsewhere. -/
def package (os : Os) (directory label : String) : UrlTemplate :=
  let archive : ArchiveType := if os = .windows then .zip else .tgz
  ⟨archive, os, s!"{directory}/mongodb-{label}-{UrlTemplate.placeholder}{archive.extension}"⟩

/-- A package built for particular distributions. -/
structure LinuxBuild where
  osVersions : List OsVersion
  arch : CpuArch
  /-- The name of the distribution in the package's file name. -/
  key : String
  releases : List VersionRange

namespace LinuxBuild

/-- The name of a 64-bit processor in package names. -/
def archKey : CpuArch → String
  | .x86 => "x86_64"
  | .arm => "aarch64"

/-- The label of a build's packages. -/
def label (build : LinuxBuild) : String :=
  s!"linux-{archKey build.arch}-{build.key}"

/-- The distributions a build serves. -/
def matcher (build : LinuxBuild) : Match :=
  (((Match.arch build.arch).and (.bits .b64)).and (.osVersionIn build.osVersions)).and
    (.versions build.releases)

def rule (build : LinuxBuild) : Rule :=
  ⟨build.label, build.matcher, .find (.template (package .linux "linux" build.label))⟩

end LinuxBuild

/-- Ubuntu packages on the release they were built for. -/
def ubuntuBuilds : List LinuxBuild :=
  [⟨[.ubuntu2204], .x86, "ubuntu2204", [windowFrom ⟨6, 0, 4⟩]⟩,
    ⟨[.ubuntu2004], .x86, "ubuntu2004", [windowFrom ⟨4, 4, 0⟩]⟩,
    ⟨[.ubuntu1804], .x86, "ubuntu1804",
      [window ⟨4, 0, 1⟩ ⟨4, 0, 28⟩, window ⟨4, 2, 0⟩ ⟨4, 2, 25⟩, window ⟨4, 4, 0⟩ ⟨4, 4, 29⟩,
        window ⟨5, 0, 0⟩ ⟨5, 0, 31⟩, window ⟨6, 0, 0⟩ ⟨6, 0, 20⟩]⟩,
    ⟨[.ubuntu1604], .x86, "ubuntu1604",
      [window ⟨3, 2, 7⟩ ⟨3, 2, 22⟩, window ⟨3, 4, 0⟩ ⟨3, 4, 24⟩, window ⟨3, 6, 0⟩ ⟨3, 6, 23⟩,
        window ⟨4, 0, 0⟩ ⟨4, 0, 28⟩, window ⟨4, 2, 0⟩ ⟨4, 2, 25⟩, window ⟨4, 4, 0⟩ ⟨4, 4, 29⟩]⟩,
    ⟨[.ubuntu1404], .x86, "ubuntu1404",
      [window ⟨3, 0, 0⟩ ⟨3, 0, 15⟩, window ⟨3, 2, 0⟩ ⟨3, 2, 22⟩, window ⟨3, 4, 0⟩ ⟨3, 4, 24⟩,
        window ⟨3, 6, 0⟩ ⟨3, 6, 23⟩, window ⟨4, 0, 0⟩ ⟨4, 0, 28⟩]⟩,
    ⟨[.ubuntu2204], .arm, "ubuntu2204", [windowFrom ⟨6, 0, 4⟩]⟩,
    ⟨[.ubuntu2004], .arm, "ubuntu2004", [windowFrom ⟨4, 4, 0⟩]⟩,
    ⟨[.ubuntu1804], .arm, "ubuntu1804",
      [window ⟨4, 2, 0⟩ ⟨4, 2, 25⟩, window ⟨4, 4, 0⟩ ⟨4, 4, 29⟩, window ⟨5, 0, 0⟩ ⟨5, 0, 31⟩,
        window ⟨6, 0, 0⟩ ⟨6, 0, 20⟩]⟩,
    ⟨[.ubuntu1604], .arm, "ubuntu1604",
      [window ⟨3, 4, 0⟩ ⟨3, 4, 24⟩, window ⟨3, 6, 0⟩ ⟨3, 6, 23⟩, window ⟨4, 0, 0⟩ ⟨4, 0, 28⟩,
        window ⟨4, 2, 0⟩ ⟨4, 2, 25⟩]⟩]

/-- Ubuntu packages on a later release than they were built for. -/
def ubuntuFallbackBuilds : List LinuxBuild :=
  [⟨[.ubuntu2204], .x86, "ubuntu2004",
      [window ⟨4, 4, 0⟩ ⟨4, 4, 29⟩, window ⟨5, 0, 0⟩ ⟨5, 0, 31⟩, window ⟨6, 0, 0⟩ ⟨6, 0, 3⟩]⟩,
    ⟨[.ubuntu2004, .ubuntu2204], .x86, "ubuntu1804",
      [window ⟨4, 0, 1⟩ ⟨4, 0, 28⟩, window ⟨4, 2, 0⟩ ⟨4, 2, 25⟩]⟩]

/-- Debian packages, the one on a later release than it was built for last. -/
def debianBuilds : List LinuxBuild :=
  [⟨[.debian12], .x86, "debian12", [windowFrom ⟨7, 0, 3⟩]⟩,
    ⟨[.debian11], .x86, "debian11", [window ⟨5, 0, 8⟩ ⟨5, 0, 31⟩, windowFrom ⟨6, 0, 0⟩]⟩,
    ⟨[.debian10], .x86, "debian10",
      [window ⟨4, 2, 1⟩ ⟨4, 2, 25⟩, window ⟨4, 4, 0⟩ ⟨4, 4, 29⟩, window ⟨5, 0, 0⟩ ⟨5, 0, 31⟩,
        window ⟨6, 0, 0⟩ ⟨6, 0, 20⟩]⟩,
    ⟨[.debian9], .x86, "debian92",
      [window ⟨3, 6, 5⟩ ⟨3, 6, 23⟩, window ⟨4, 0, 0⟩ ⟨4, 0, 28⟩, window ⟨4, 2, 0⟩ ⟨4, 2, 25⟩,
        window ⟨4, 4, 0⟩ ⟨4, 4, 29⟩, window ⟨5, 0, 0⟩ ⟨5, 0, 31⟩]⟩,
    ⟨[.debian8], .x86, "debian81",
      [window ⟨3, 2, 8⟩ ⟨3, 2, 22⟩, window ⟨3, 4, 0⟩ ⟨3, 4, 24⟩, window ⟨3, 6, 0⟩ ⟨3, 6, 23⟩,
        window ⟨4, 0, 0⟩ ⟨4, 0, 28⟩]⟩,
    ⟨[.debian7], .x86, "debian71",
      [window ⟨3, 0, 0⟩ ⟨3, 0, 15⟩, window ⟨3, 2, 0⟩ ⟨3, 2, 22⟩, window ⟨3, 4, 0⟩ ⟨3, 4, 24⟩]⟩,
    ⟨[.debian12], .x86, "debian11", [window ⟨5, 0, 8⟩ ⟨5, 0, 31⟩, window ⟨6, 0, 0⟩ ⟨7, 0, 2⟩]⟩]

/-- Red Hat packages, also for the distributions rebuilt from its sources. -/
def rhelBuilds : List LinuxBuild :=
  [⟨[.rhel9], .x86, "rhel90", [windowFrom ⟨6, 0, 4⟩]⟩,
    ⟨[.rhel8], .x86, "rhel80", [window ⟨4, 0, 14⟩ ⟨4, 0, 28⟩, windowFrom ⟨4, 2, 1⟩]⟩,
    ⟨[.rhel7], .x86, "rhel70", [window ⟨3, 0, 0⟩ ⟨7, 0, 14⟩]⟩,
    ⟨[.rhel6], .x86, "rhel62", [window ⟨2, 6, 0⟩ ⟨4, 4, 29⟩]⟩,
    ⟨[.rhel9], .arm, "rhel90", [windowFrom ⟨6, 0, 7⟩]⟩,
    ⟨[.rhel8], .arm, "rhel82", [windowFrom ⟨4, 4, 4⟩]⟩]

def amazonBuilds : List LinuxBuild :=
  [⟨[.amazon2023], .x86, "amazon2023", [windowFrom ⟨7, 0, 0⟩]⟩,
    ⟨[.amazon2], .x86, "amazon2", [windowFrom ⟨4, 0, 0⟩]⟩,
    ⟨[.amazon], .x86, "amazon", [window ⟨3, 0, 0⟩ ⟨5, 0, 31⟩]⟩,
    ⟨[.amazon2023], .arm, "amazon2023", [windowFrom ⟨7, 0, 0⟩]⟩,
    ⟨[.amazon2], .arm, "amazon2", [windowFrom ⟨4, 4, 4⟩]⟩]

def suseBuilds : List LinuxBuild :=
  [⟨[.suse15], .x86, "suse15", [windowFrom ⟨4, 2, 1⟩]⟩,
    ⟨[.suse12], .x86, "suse12", [window ⟨3, 2, 0⟩ ⟨6, 0, 20⟩]⟩]

/-- Every build for a particular distribution, in the order in which they are tried. -/
def linuxBuilds : List LinuxBuild :=
  ubuntuBuilds ++ ubuntuFallbackBuilds ++ debianBuilds ++ rhelBuilds ++ amazonBuilds ++ suseBuilds

/-- The rules for particular distributions. -/
def linuxBuildTable : RuleTable := ⟨"linux", linuxBuilds.map LinuxBuild.rule⟩

/-- The rules for any Linux, tried after the ones for particular distributions. -/
def anyLinuxTable : RuleTable :=
  RuleTable.empty "linux-legacy"
    |>.rule "linux-i686"
      (((Match.arch .x86).and (.bits .b32)).and (.between ⟨2, 6, 0⟩ ⟨3, 2, 22⟩))
      (.template (package .linux "linux" "linux-i686"))
    |>.reject "32-bit Linux builds are not published after 3.2" (.bits .b32)
    |>.reject "ARM builds only exist for specific distributions, set an OS version" (.arch .arm)
    |>.rule "linux-x86_64" (.between ⟨2, 6, 0⟩ ⟨4, 0, 28⟩)
      (.template (package .linux "linux" "linux-x86_64"))
    |>.otherwiseReject
      "generic Linux builds end at 4.0, set a supported distribution as OS version"

def linuxTable : RuleTable := linuxBuildTable.extend anyLinuxTable

end ThrowawayServer.Catalog
