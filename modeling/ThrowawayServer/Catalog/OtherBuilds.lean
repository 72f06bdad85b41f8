import ThrowawayServer.Catalog.LinuxBuilds

/-!
# Builds for other operating systems

Windows packages are named for the server generation of their time, macOS packages by three schemes
that followed each other. Solaris packages ended early and FreeBSD has none.
-/

set_option autoImplicit false

namespace ThrowawayServer.Catalog

/-- The rules for Windows. Hosts older than 2008 R2 need the builds without a generation in their
name, so their rules come before the ones whose ranges overlap them. -/
def windowsTable : RuleTable :=
  RuleTable.empty "windows"
    |>.rule "win32-i386" ((Match.bits .b32).and (.between ⟨2, 6, 0⟩ ⟨3, 2, 22⟩))
      (.template (package .windows "win32" "win32-i386"))
    |>.reject "32-bit Windows builds are not published after 3.2" (.bits .b32)
    |>.reject "no Windows builds for ARM" (.arch .arm)
    |>.rule "win32-x86_64-legacy"
      ((Match.osVersionIn [.windowsLegacy]).and (.between ⟨2, 6, 0⟩ ⟨3, 4, 24⟩))
      (.template (package .windows "win32" "win32-x86_64"))
    |>.reject "builds after 3.4 require Windows Server 2008 R2 or newer"
      (.osVersionIn [.windowsLegacy])
    |>.rule "windows-x86_64" (.since ⟨4, 4, 0⟩)
      (.template (package .windows "windows" "windows-x86_64"))
    |>.rule "win32-x86_64-2012plus" (.between ⟨4, 2, 0⟩ ⟨4, 2, 25⟩)
      (.template (package .windows "win32" "win32-x86_64-2012plus"))
    |>.rule "win32-x86_64-2008plus-ssl"
      (.versions [window ⟨3, 0, 0⟩ ⟨3, 6, 23⟩, window ⟨4, 0, 0⟩ ⟨4, 0, 28⟩])
      (.template (package .windows "win32" "win32-x86_64-2008plus-ssl"))
    |>.rule "win32-x86_64-2008plus" (.between ⟨2, 6, 0⟩ ⟨2, 6, 12⟩)
      (.template (package .windows "win32" "win32-x86_64-2008plus"))
    |>.otherwiseReject "no Windows package published for this version"

/-- The rules for macOS. -/
def macOsTable : RuleTable :=
  RuleTable.empty "osx"
    |>.reject "no 32-bit macOS builds" (.bits .b32)
    |>.rule "macos-arm64" ((Match.arch .arm).and (.since ⟨6, 0, 0⟩))
      (.template (package .macOs "osx" "macos-arm64"))
    |>.reject "Apple silicon builds are published from 6.0 on" (.arch .arm)
    |>.rule "macos-x86_64" (.since ⟨4, 2, 0⟩)
      (.template (package .macOs "osx" "macos-x86_64"))
    |>.rule "osx-ssl-x86_64" (.between ⟨3, 2, 0⟩ ⟨4, 0, 28⟩)
      (.template (package .macOs "osx" "osx-ssl-x86_64"))
    |>.rule "osx-x86_64" (.between ⟨2, 6, 0⟩ ⟨3, 0, 15⟩)
      (.template (package .macOs "osx" "osx-x86_64"))
    |>.otherwiseReject "no macOS package published for this version"

def solarisTable : RuleTable :=
  RuleTable.empty "solaris"
    |>.rule "sunos5-x86_64"
      (((Match.arch .x86).and (.bits .b64)).and (.between ⟨2, 6, 0⟩ ⟨3, 4, 24⟩))
      (.template (package .solaris "sunos5" "sunos5-x86_64"))
    |>.otherwiseReject "Solaris builds are only published for 64-bit x86 up to 3.4"

/-- The rules for FreeBSD. -/
def freeBsdTable : RuleTable :=
  RuleTable.empty "freebsd" |>.otherwiseReject "MongoDB publishes no FreeBSD builds"

/-- The rules for an operating system. -/
def builtinTable : Os → RuleTable
  | .linux => linuxTable
  | .windows => windowsTable
  | .macOs => macOsTable
  | .solaris => solarisTable
  | .freeBsd => freeBsdTable

end ThrowawayServer.Catalog
