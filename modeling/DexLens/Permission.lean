/-! # Permissions of the platform

With the level at which each is protected.
-/

namespace DexLens

abbrev Rules := List (String × String)

namespace Permission

def platform (level : String) (names : List String) : List (String × String) :=
 names.map ("android.permission." ++ ·, level)

def levels : List (String × String) :=
 platform "normal"
  ["WRITE_USER_DICTIONARY", "ACCESS_LOCATION_EXTRA_COMMANDS", "ACCESS_NETWORK_STATE", "ACCESS_WIFI_STATE",
   "ACCESS_WIMAX_STATE", "GET_ACCOUNTS", "VIBRATE", "FLASHLIGHT", "READ_EXTERNAL_STORAGE", "EXPAND_STATUS_BAR",
   "RESTART_PACKAGES", "KILL_BACKGROUND_PROCESSES", "GET_PACKAGE_SIZE", "RECEIVE_BOOT_COMPLETED",
   "BROADCAST_STICKY", "SET_WALLPAPER", "SET_WALLPAPER_HINTS", "READ_SYNC_SETTINGS", "READ_SYNC_STATS",
   "SUBSCRIBED_FEEDS_READ", "BATTERY_STATS", "SERIAL_PORT"] ++
 platform "dangerous"
  ["SEND_SMS", "CALL_PHONE", "RECEIVE_SMS", "RECEIVE_MMS", "READ_CELL_BROADCASTS", "READ_SMS", "WRITE_SMS",
   "RECEIVE_WAP_PUSH", "READ_CONTACTS", "WRITE_CONTACTS", "READ_CALL_LOG", "WRITE_CALL_LOG", "READ_PROFILE",
   "WRITE_PROFILE", "READ_SOCIAL_STREAM", "WRITE_SOCIAL_STREAM", "READ_CALENDAR", "WRITE_CALENDAR",
   "READ_USER_DICTIONARY", "ACCESS_FINE_LOCATION", "ACCESS_COARSE_LOCATION", "ACCESS_MOCK_LOCATION", "INTERNET",
   "BLUETOOTH", "NFC", "USE_SIP", "AUTHENTICATE_ACCOUNTS", "USE_CREDENTIALS", "MANAGE_ACCOUNTS",
   "MODIFY_AUDIO_SETTINGS", "RECORD_AUDIO", "CAMERA", "PROCESS_OUTGOING_CALLS", "READ_PHONE_STATE",
   "WRITE_EXTERNAL_STORAGE", "WRITE_SETTINGS", "GET_TASKS", "REORDER_TASKS", "CHANGE_CONFIGURATION",
   "SYSTEM_ALERT_WINDOW", "PERSISTENT_ACTIVITY", "WAKE_LOCK", "SET_TIME_ZONE", "MOUNT_UNMOUNT_FILESYSTEMS",
   "MOUNT_FORMAT_FILESYSTEMS", "DISABLE_KEYGUARD", "WRITE_SYNC_SETTINGS", "SUBSCRIBED_FEEDS_WRITE",
   "CHANGE_NETWORK_STATE", "CHANGE_WIFI_STATE", "CHANGE_WIMAX_STATE", "CHANGE_WIFI_MULTICAST_STATE",
   "BLUETOOTH_ADMIN", "CLEAR_APP_CACHE"] ++
 platform "signature"
  ["ACCOUNT_MANAGER", "HARDWARE_TEST", "NET_ADMIN", "REMOTE_AUDIO_PLAYBACK", "GET_DETAILED_TASKS", "REMOVE_TASKS",
   "START_ANY_ACTIVITY", "SET_SCREEN_COMPATIBILITY", "FORCE_STOP_PACKAGES", "SET_PREFERRED_APPLICATIONS",
   "ASEC_ACCESS", "ASEC_CREATE", "ASEC_DESTROY", "ASEC_MOUNT_UNMOUNT", "ASEC_RENAME", "DIAGNOSTIC",
   "STATUS_BAR_SERVICE", "FORCE_BACK", "INTERNAL_SYSTEM_WINDOW", "MANAGE_APP_TOKENS", "INJECT_EVENTS",
   "SET_ACTIVITY_WATCHER", "READ_INPUT_STATE", "BIND_INPUT_METHOD", "BIND_ACCESSIBILITY_SERVICE",
   "BIND_TEXT_SERVICE", "BIND_VPN_SERVICE", "BIND_DEVICE_ADMIN", "SET_ORIENTATION", "SET_POINTER_SPEED",
   "SET_KEYBOARD_LAYOUT", "CLEAR_APP_USER_DATA", "GRANT_REVOKE_PERMISSIONS", "ACCESS_SURFACE_FLINGER", "BRICK",
   "DEVICE_POWER", "FACTORY_TEST", "BROADCAST_PACKAGE_REMOVED", "BROADCAST_SMS", "BROADCAST_WAP_PUSH",
   "CONFIRM_FULL_BACKUP", "CHANGE_BACKGROUND_DATA_SETTING", "GLOBAL_SEARCH_CONTROL", "COPY_PROTECTED_DATA",
   "MANAGE_NETWORK_POLICY", "BIND_PACKAGE_VERIFIER", "ACCESS_CONTENT_PROVIDERS_EXTERNALLY"] ++
 platform "signatureOrSystem"
  ["SEND_SMS_NO_CONFIRMATION", "RECEIVE_EMERGENCY_BROADCAST", "INSTALL_LOCATION_PROVIDER", "CONNECTIVITY_INTERNAL",
   "MANAGE_USB", "ACCESS_MTP", "MODIFY_PHONE_STATE", "READ_PRIVILEGED_PHONE_STATE", "WRITE_MEDIA_STORAGE",
   "WRITE_GSERVICES", "RETRIEVE_WINDOW_CONTENT", "SET_ANIMATION_SCALE", "SET_TIME", "WRITE_APN_SETTINGS",
   "ALLOW_ANY_CODEC_FOR_PLAYBACK", "WRITE_SECURE_SETTINGS", "DUMP", "READ_LOGS", "SET_DEBUG_APP",
   "SET_PROCESS_LIMIT", "SET_ALWAYS_FINISH", "SIGNAL_PERSISTENT_PROCESSES", "STATUS_BAR", "UPDATE_DEVICE_STATS",
   "SHUTDOWN", "STOP_APP_SWITCHES", "BIND_WALLPAPER", "INSTALL_PACKAGES", "DELETE_CACHE_FILES", "DELETE_PACKAGES",
   "MOVE_PACKAGE", "CHANGE_COMPONENT_ENABLED_STATE", "READ_FRAME_BUFFER", "REBOOT", "MASTER_CLEAR",
   "CALL_PRIVILEGED", "PERFORM_CDMA_PROVISIONING", "CONTROL_LOCATION_UPDATES", "ACCESS_CHECKIN_PROPERTIES",
   "PACKAGE_USAGE_STATS", "BACKUP", "BIND_REMOTEVIEWS", "BIND_APPWIDGET", "MODIFY_APPWIDGET_BIND_PERMISSIONS",
   "GLOBAL_SEARCH", "SET_WALLPAPER_COMPONENT", "ACCESS_CACHE_FILESYSTEM", "CRYPT_KEEPER",
   "READ_NETWORK_USAGE_HISTORY", "MODIFY_NETWORK_ACCOUNTING", "PACKAGE_VERIFICATION_AGENT", "UPDATE_LOCK"] ++
 [("com.android.browser.permission.READ_HISTORY_BOOKMARKS", "dangerous"),
  ("com.android.browser.permission.WRITE_HISTORY_BOOKMARKS", "dangerous"),
  ("com.android.alarm.permission.SET_ALARM", "normal"),
  ("com.android.voicemail.permission.ADD_VOICEMAIL", "dangerous"),
  ("android.intent.category.MASTER_CLEAR.permission.C2D_MESSAGE", "signature")]

def level? (name : String) : Option String := levels.lookup name

def known (name : String) : Bool := (level? name).isSome

end Permission

end DexLens
