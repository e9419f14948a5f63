import Jevmalloc.Ctl.Mibs
import Jevmalloc.Ctl.Serial

set_option autoImplicit false

namespace Jevmalloc

-- The functions of opt, config, stats, profiling, thread::this, arenas and lib
-- that are one control call each, with their control names and C types.
namespace Opt

def abort : ControlCall := .boolGetter "opt.abort"
def confirmConf : ControlCall := .boolGetter "opt.confirm_conf"
def abortConf : ControlCall := .boolGetter "opt.abort_conf"
def cacheOblivious : ControlCall := .boolGetter "opt.cache_oblivious"
def metadataThp : ControlCall := .cstrGetter "opt.metadata_thp"
def trustMadvise : ControlCall := .boolGetter "opt.trust_madvise"
def retain : ControlCall := .boolGetter "opt.retain"
def dss : ControlCall := .cstrGetter "opt.dss"
def narenas : ControlCall := .scalarGetter "opt.narenas" .unsigned
def oversizeThreshold : ControlCall := .scalarGetter "opt.oversize_threshold" .size
def percpuArena : ControlCall := .cstrGetter "opt.percpu_arena"
def backgroundThread : ControlCall := .boolGetter "opt.background_thread"
def maxBackgroundThreads : ControlCall := .scalarGetter "opt.max_background_threads" .size
def dirtyDecayMs : ControlCall := .scalarGetter "opt.dirty_decay_ms" .ssize
def muzzyDecayMs : ControlCall := .scalarGetter "opt.muzzy_decay_ms" .ssize
def lgExtentMaxActiveFit : ControlCall := .scalarGetter "opt.lg_extent_max_active_fit" .size
def statsPrint : ControlCall := .boolGetter "opt.stats_print"
def statsPrintOpts : ControlCall := .cstrGetter "opt.stats_print_opts"
def statsInterval : ControlCall := .scalarGetter "opt.stats_interval" .int64
def statsIntervalOpts : ControlCall := .cstrGetter "opt.stats_interval_opts"
def junk : ControlCall := .cstrGetter "opt.junk"
def zero : ControlCall := .boolGetter "opt.zero"
def utrace : ControlCall := .boolGetter "opt.utrace"
def xmalloc : ControlCall := .boolGetter "opt.xmalloc"
def tcache : ControlCall := .boolGetter "opt.tcache"
def tcacheMax : ControlCall := .scalarGetter "opt.tcache_max" .size
def thp : ControlCall := .cstrGetter "opt.thp"
def profBtMax : ControlCall := .scalarGetter "opt.prof_bt_max" .unsigned
def prof : ControlCall := .boolGetter "opt.prof"
def profPrefix : ControlCall := .cstrGetter "opt.prof_prefix"
def profActive : ControlCall := .boolGetter "opt.prof_active"
def profThreadActiveInit : ControlCall := .boolGetter "opt.prof_thread_active_init"
def lgProfSample : ControlCall := .scalarGetter "opt.lg_prof_sample" .size
def profAccum : ControlCall := .boolGetter "opt.prof_accum"
def profPidNamespace : ControlCall := .boolGetter "opt.prof_pid_namespace"
def lgProfInterval : ControlCall := .scalarGetter "opt.lg_prof_interval" .ssize
def profGdump : ControlCall := .boolGetter "opt.prof_gdump"
def profFinal : ControlCall := .boolGetter "opt.prof_final"
def profLeak : ControlCall := .boolGetter "opt.prof_leak"
def profLeakError : ControlCall := .boolGetter "opt.prof_leak_error"
def zeroRealloc : ControlCall := .cstrGetter "opt.zero_realloc"
def debugDoubleFreeMaxScan : ControlCall := .scalarGetter "opt.debug_double_free_max_scan" .unsigned
def disableLargeSizeClasses : ControlCall := .boolGetter "opt.disable_large_size_classes"
def processMadviseMaxBatch : ControlCall := .scalarGetter "opt.process_madvise_max_batch" .size

end Opt

namespace Config

def cacheOblivious : ControlCall := .boolGetter "config.cache_oblivious"
def debug : ControlCall := .boolGetter "config.debug"
def fill : ControlCall := .boolGetter "config.fill"
def lazyLock : ControlCall := .boolGetter "config.lazy_lock"
def mallocConf : ControlCall := .cstrGetter "config.malloc_conf"
def prof : ControlCall := .boolGetter "config.prof"
def profLibgcc : ControlCall := .boolGetter "config.prof_libgcc"
def profLibunwind : ControlCall := .boolGetter "config.prof_libunwind"
def stats : ControlCall := .boolGetter "config.stats"
def utrace : ControlCall := .boolGetter "config.utrace"
def xmalloc : ControlCall := .boolGetter "config.xmalloc"

end Config

namespace Stats

def epoch : ControlCall := .scalarGetter "epoch" .uint64
def refreshEpoch : ControlCall := .scalarExchange "epoch" .uint64 (0 : Nat)
def allocated : ControlCall := .scalarGetter "stats.allocated" .size
def active : ControlCall := .scalarGetter "stats.active" .size
def metadata : ControlCall := .scalarGetter "stats.metadata" .size
def metadataThp : ControlCall := .scalarGetter "stats.metadata_thp" .size
def resident : ControlCall := .scalarGetter "stats.resident" .size
def mapped : ControlCall := .scalarGetter "stats.mapped" .size
def retained : ControlCall := .scalarGetter "stats.retained" .size
def zeroReallocs : ControlCall := .scalarGetter "stats.zero_reallocs" .size
def backgroundThreadNumThreads : ControlCall := .scalarGetter "stats.background_thread.num_threads" .size
def backgroundThreadNumRuns : ControlCall := .scalarGetter "stats.background_thread.num_runs" .uint64
def backgroundThreadRunInterval : ControlCall := .scalarGetter "stats.background_thread.run_interval" .uint64
def statsReset : ControlCall := .notify "stats.mutexes.reset"

end Stats

namespace Profiling

def profReset : ControlCall := .notify "prof.reset"
def profDump : ControlCall := .notify "prof.dump"
def profGdump (enable : Bool) : ControlCall := .boolExchange "prof.gdump" enable
def profEnable (enable : Bool) : ControlCall := .boolExchange "prof.active" enable
def isProfEnabled : ControlCall := .boolGetter "prof.active"
def profInterval : ControlCall := .scalarGetter "prof.interval" .uint64

end Profiling

namespace ThisThread

def idle : ControlCall := .notify "thread.idle"
def flush : ControlCall := .notify "thread.tcache.flush"
def cacheEnable (enable : Bool) : ControlCall := .boolExchange "thread.tcache.enabled" enable
def isCacheEnabled : ControlCall := .boolGetter "thread.tcache.enabled"
def tcacheMax : ControlCall := .scalarGetter "thread.tcache.max" .size
def setTcacheMax (max : Nat) : ControlCall := .scalarExchange "thread.tcache.max" .size max

def tcacheNcachedMax (sizeClass : Nat) : ControlCall :=
  .lookup "thread.tcache.ncached_max.read_sizeclass" .size sizeClass .size

def profEnable (enable : Bool) : ControlCall := .boolExchange "thread.prof.active" enable
def isProfEnabled : ControlCall := .boolGetter "thread.prof.active"
def resetPeak : ControlCall := .notify "thread.peak.reset"
def peak : ControlCall := .scalarGetter "thread.peak.read" .uint64
def allocated : ControlCall := .scalarGetter "thread.allocated" .uint64
def deallocated : ControlCall := .scalarGetter "thread.deallocated" .uint64

end ThisThread

namespace Arenas

def muzzyDecay : ControlCall := .scalarGetter "arenas.muzzy_decay_ms" .ssize
def setMuzzyDecay (decayMs : Int) : ControlCall := .scalarExchange "arenas.muzzy_decay_ms" .ssize decayMs
def dirtyDecay : ControlCall := .scalarGetter "arenas.dirty_decay_ms" .ssize
def setDirtyDecay (decayMs : Int) : ControlCall := .scalarExchange "arenas.dirty_decay_ms" .ssize decayMs
def quantum : ControlCall := .scalarGetter "arenas.quantum" .size
def isAffine : ControlCall := .percpuIs [.percpu, .phycpu]
def isPercpu : ControlCall := .percpuIs [.percpu]
def isPhycpu : ControlCall := .percpuIs [.phycpu]

end Arenas

def backgroundThreadEnable (enable : Bool) : ControlCall := .boolExchange "background_thread" enable

def keyNames : List String :=
  ["epoch", "background_thread", "config.cache_oblivious", "config.debug", "config.fill", "config.lazy_lock",
    "config.malloc_conf", "config.prof", "config.prof_libgcc", "config.prof_libunwind", "config.stats", "config.utrace",
    "config.xmalloc", "opt.abort", "opt.confirm_conf", "opt.abort_conf", "opt.cache_oblivious", "opt.metadata_thp",
    "opt.trust_madvise", "opt.retain", "opt.dss", "opt.narenas", "opt.oversize_threshold", "opt.percpu_arena",
    "opt.background_thread", "opt.max_background_threads", "opt.dirty_decay_ms", "opt.muzzy_decay_ms",
    "opt.lg_extent_max_active_fit", "opt.stats_print", "opt.stats_print_opts", "opt.stats_interval",
    "opt.stats_interval_opts", "opt.junk", "opt.zero", "opt.utrace", "opt.xmalloc", "opt.tcache", "opt.tcache_max",
    "opt.thp", "opt.prof_bt_max", "opt.prof", "opt.prof_prefix", "opt.prof_active", "opt.prof_thread_active_init",
    "opt.lg_prof_sample", "opt.prof_accum", "opt.prof_pid_namespace", "opt.lg_prof_interval", "opt.prof_gdump",
    "opt.prof_final", "opt.prof_leak", "opt.prof_leak_error", "opt.zero_realloc", "opt.debug_double_free_max_scan",
    "opt.disable_large_size_classes", "opt.process_madvise_max_batch", "arena.0.purge", "arena.0.decay", "arena.0.reset",
    "arena.0.destroy", "arena.0.name", "arena.0.dss", "arena.0.muzzy_decay_ms", "arena.0.dirty_decay_ms",
    "arena.0.retain_grow_limit", "arena.0.extent_hooks", "arenas.create", "arenas.lookup", "arenas.muzzy_decay_ms",
    "arenas.dirty_decay_ms", "arenas.narenas", "arenas.quantum", "thread.idle", "thread.arena", "thread.tcache.flush",
    "thread.tcache.enabled", "thread.tcache.max", "thread.tcache.ncached_max.read_sizeclass",
    "thread.tcache.ncached_max.write", "tcache.create", "tcache.flush", "tcache.destroy", "prof.reset", "prof.dump",
    "prof.gdump", "prof.active", "prof.interval", "thread.prof.active", "stats.mutexes.reset", "stats.allocated",
    "stats.active", "stats.metadata", "stats.metadata_thp", "stats.resident", "stats.mapped", "stats.retained",
    "stats.zero_reallocs", "stats.background_thread.num_threads", "stats.background_thread.num_runs",
    "stats.background_thread.run_interval", "thread.peak.reset", "thread.peak.read", "thread.allocated",
    "thread.deallocated", "thread.allocatedp", "thread.deallocatedp"]

def catalogue (enable : Bool) (amount : Nat) (decayMs : Int) : List ControlCall :=
  [Opt.abort, Opt.confirmConf, Opt.abortConf, Opt.cacheOblivious, Opt.metadataThp, Opt.trustMadvise, Opt.retain, Opt.dss,
    Opt.narenas, Opt.oversizeThreshold, Opt.percpuArena, Opt.backgroundThread, Opt.maxBackgroundThreads, Opt.dirtyDecayMs,
    Opt.muzzyDecayMs, Opt.lgExtentMaxActiveFit, Opt.statsPrint, Opt.statsPrintOpts, Opt.statsInterval, Opt.statsIntervalOpts,
    Opt.junk, Opt.zero, Opt.utrace, Opt.xmalloc, Opt.tcache, Opt.tcacheMax, Opt.thp, Opt.profBtMax, Opt.prof, Opt.profPrefix,
    Opt.profActive, Opt.profThreadActiveInit, Opt.lgProfSample, Opt.profAccum, Opt.profPidNamespace, Opt.lgProfInterval,
    Opt.profGdump, Opt.profFinal, Opt.profLeak, Opt.profLeakError, Opt.zeroRealloc, Opt.debugDoubleFreeMaxScan,
    Opt.disableLargeSizeClasses, Opt.processMadviseMaxBatch, Config.cacheOblivious, Config.debug, Config.fill, Config.lazyLock,
    Config.mallocConf, Config.prof, Config.profLibgcc, Config.profLibunwind, Config.stats, Config.utrace, Config.xmalloc,
    Stats.epoch, Stats.refreshEpoch, Stats.allocated, Stats.active, Stats.metadata, Stats.metadataThp, Stats.resident,
    Stats.mapped, Stats.retained, Stats.zeroReallocs, Stats.backgroundThreadNumThreads, Stats.backgroundThreadNumRuns,
    Stats.backgroundThreadRunInterval, Stats.statsReset, Profiling.profReset, Profiling.profDump, Profiling.profGdump enable,
    Profiling.profEnable enable, Profiling.isProfEnabled, Profiling.profInterval, ThisThread.idle, ThisThread.flush,
    ThisThread.cacheEnable enable, ThisThread.isCacheEnabled, ThisThread.tcacheMax, ThisThread.setTcacheMax amount,
    ThisThread.tcacheNcachedMax amount, ThisThread.profEnable enable, ThisThread.isProfEnabled, ThisThread.resetPeak,
    ThisThread.peak, ThisThread.allocated, ThisThread.deallocated, Arenas.muzzyDecay, Arenas.setMuzzyDecay decayMs,
    Arenas.dirtyDecay, Arenas.setDirtyDecay decayMs, .arenasLimit, Arenas.quantum, .percpuMode, Arenas.isAffine,
    Arenas.isPercpu, Arenas.isPhycpu, backgroundThreadEnable enable]

theorem key_names_valid (name : String) (member : name ∈ keyNames) : ValidName name := by
  have valid : ∀ name ∈ keyNames, ValidName name := by
    unfold ValidName
    decide +kernel
  exact valid name member

theorem catalogue_named (enable : Bool) (amount : Nat) (decayMs : Int) (call : ControlCall)
    (member : call ∈ catalogue enable amount decayMs) : ∃ name ∈ keyNames, call.name = some name := by
  have named : ∀ found ∈ (catalogue true 0 0).map ControlCall.name, ∃ name ∈ found, name ∈ keyNames := by decide +kernel
  have same : (catalogue enable amount decayMs).map ControlCall.name = (catalogue true 0 0).map ControlCall.name := rfl
  obtain ⟨name, called, known⟩ := named call.name (by rw [← same]; exact List.mem_map_of_mem member)
  exact ⟨name, known, called⟩

end Jevmalloc
